import CatalogueViewer.Engine.Preview
import CatalogueViewer.Proofs.Render.Sessions

/-!
# What the preview engine will show

The preview engine remembers nothing and closes no slot, so what a text will be shown as is known
before it is submitted.  The name of the attempt is all that depends on what was done before:
`view_render_preview`.
-/

namespace CatalogueViewer

/-- Two results are the same, but for the attempt that a drawing comes from. -/
inductive Result.Alike : Result → Result → Prop where
  | same (result : Result) : Alike result result
  | drawn {one other : Drawing} (body : one.body = other.body) :
      Alike (.success one) (.success other)

theorem Result.alike_of_view {r s : Result} (same : r.view = s.view) : r.Alike s := by
  cases r with
  | loading =>
    cases s with
    | loading => exact .same _
    | _ => cases same
  | invalid =>
    cases s with
    | invalid => exact .same _
    | _ => cases same
  | error message =>
    cases s with
    | error other =>
      cases same
      exact .same _
    | _ => cases same
  | success drawing =>
    cases s with
    | success other => exact .drawn (DiagramView.rendered.inj same)
    | _ => cases same

namespace Preview

/-- What a source comes to at the first call, unless that leads to a second one. -/
def firstView? (source : String) : Option DiagramView :=
  match draw source.toList with
  | .ok body => some (.rendered (String.ofList body))
  | .error e => if e.blamesSource then some .code else none

/-- What a source comes to at the second call. -/
def secondView (source : String) : DiagramView :=
  match draw source.toList with
  | .ok body => .rendered (String.ofList body)
  | .error _ => .code

/-- The source with all group titles quoted. -/
def recovered (source : String) : String := String.ofList (Diagram.recover source.toList)

def sourceView (source : String) : DiagramView :=
  (firstView? source).getD (secondView (recovered source))

/-- What a text will be shown as. -/
def textView (text : String) : DiagramView :=
  match Diagram.prepare text with
  | .ready diagram => sourceView diagram.source
  | .noContent => .failed noContent
  | .rejected _ => .code

theorem firstResult?_answer (attempt : AttemptId) (source : String) :
    (Renderer.firstResult? (answer attempt source)).map Result.view = firstView? source := by
  unfold answer firstView? Renderer.firstResult?
  cases draw source.toList with
  | ok body => rfl
  | error e =>
    simp only [Except.map]
    split <;> rfl

theorem view_secondResult_answer (attempt : AttemptId) (source : String) :
    (Renderer.secondResult (answer attempt source)).view = secondView source := by
  unfold answer secondView Renderer.secondResult
  cases draw source.toList <;> rfl

theorem secondView_ne_pending (source : String) : secondView source ≠ .pending := by
  unfold secondView
  cases draw source.toList <;> simp

theorem sourceView_ne_pending (source : String) : sourceView source ≠ .pending := by
  unfold sourceView firstView?
  cases draw source.toList with
  | ok body => simp
  | error e =>
    by_cases blames : e.blamesSource = true
    · simp [blames]
    · simp [blames, secondView_ne_pending]

theorem textView_ne_pending (text : String) : textView text ≠ .pending := by
  unfold textView
  cases Diagram.prepare text with
  | ready diagram => exact sourceView_ne_pending _
  | noContent => simp
  | rejected reason => simp

theorem answer_attempt (r : Renderer) (s : Session) (id : SlotId) (source : String) :
    ∃ attempt, (r.attempt Engine.preview s id source).1 = { answer := answer attempt source } :=
  ⟨_, rfl⟩

theorem answer_retry (s : Session) (id : SlotId) (source : String) :
    ∃ attempt, (Renderer.retry Engine.preview s id source).1 =
      { answer := answer attempt (recovered source) } :=
  ⟨_, rfl⟩

theorem view_execute_preview (r : Renderer) (s : Session) (id : SlotId) (source : String) :
    (r.execute Engine.preview s id source).1.view = sourceView source := by
  obtain ⟨one, first⟩ := answer_attempt r s id source
  unfold Renderer.execute
  dsimp only
  rw [first, sourceView, ← firstResult?_answer one]
  cases Renderer.firstResult? (answer one source) with
  | some result => rfl
  | none =>
    obtain ⟨other, second⟩ := answer_retry
      ((r.attempt Engine.preview s id source).2.elapse 0) id source
    dsimp only [Option.map_none, Option.getD_none]
    rw [second, view_secondResult_answer]

/-- Whatever else a renderer was used for, and for whatever slot, the text is shown alike. -/
theorem view_render_preview (r : Renderer) (s : Session) (id : SlotId) (text : String) :
    (r.render Engine.preview s id text).1.view = textView text := by
  unfold Renderer.render textView
  cases Diagram.prepare text with
  | ready diagram => exact view_execute_preview r s id diagram.source
  | noContent => rfl
  | rejected reason => rfl

end Preview

/-! ### Submissions under way -/

namespace Progress

/-- What a submission that has come this far will be shown as. -/
def outlook (source : String) : Progress → DiagramView
  | settled result => result.view
  | waiting .debounce => Preview.sourceView source
  | waiting (.first reply) =>
    ((Renderer.firstResult? reply.answer).map Result.view).getD
      (Preview.secondView (Preview.recovered source))
  | waiting (.second reply) => (Renderer.secondResult reply.answer).view
  | done result => result.view

theorem outlook_debounce (source : String) :
    (waiting .debounce).outlook source = Preview.sourceView source := rfl

theorem outlook_first (source : String) (reply : Reply) :
    (waiting (.first reply)).outlook source =
      ((Renderer.firstResult? reply.answer).map Result.view).getD
        (Preview.secondView (Preview.recovered source)) := rfl

theorem outlook_second (source : String) (reply : Reply) :
    (waiting (.second reply)).outlook source = (Renderer.secondResult reply.answer).view := rfl

theorem outlook_done (source : String) (result : Result) :
    (done result).outlook source = result.view := rfl

/-- No answer that the submission waits for closes a slot. -/
def Calm : Progress → Prop
  | waiting (.first reply) | waiting (.second reply) => reply.teardown = none
  | settled _ | waiting .debounce | done _ => True

/-- The number of moves that are left, apart from the passing of time. -/
def moves : Progress → Nat
  | waiting stage => stage.waits + 1
  | settled _ | done _ => 1

end Progress

namespace Pool

open Preview

variable {p q : Pool} {j : Job} {id : SlotId} {events : List Event}

/-- The work on a submission brings it nearer to its end, and changes nothing else.  The result that
it will come to stays the same. -/
structure Advances (p : Pool) (j : Job) (progress : Progress) (q : Pool) : Prop where
  awaits : ∃ session time, q = { p with session := session }.await j progress time
  calm : progress.Calm
  outlook : progress.outlook j.source = j.progress.outlook j.source
  fewer : progress.moves < j.progress.moves

theorem applyReply_calm (p : Pool) {reply : Reply} (calm : reply.teardown = none) :
    p.applyReply reply = ([], p) := by
  rw [applyReply, calm]

theorem callEngine_advances (stage : j.progress = .waiting .debounce) (p : Pool) (id : SlotId) :
    ∃ progress, Advances p j progress (p.callEngine Engine.preview j id) := by
  obtain ⟨attempt, first⟩ := answer_attempt j.renderer p.session id j.source
  refine ⟨.waiting (.first (j.renderer.attempt Engine.preview p.session id j.source).1),
    ⟨_, _, rfl⟩, ?_, ?_, ?_⟩
  · rw [first]
    exact rfl
  · rw [first, stage, Progress.outlook_first, Progress.outlook_debounce, firstResult?_answer,
      sourceView]
  · rw [stage]
    exact Nat.lt_succ_self 3

theorem takeFirst_advances {reply : Reply} (stage : j.progress = .waiting (.first reply))
    (p : Pool) (id : SlotId) :
    ∃ progress, Advances p j progress (p.takeFirst Engine.preview j id reply.answer) := by
  unfold takeFirst
  cases found : Renderer.firstResult? reply.answer with
  | some result =>
    refine ⟨.done result, ⟨p.session, _, rfl⟩, trivial, ?_, ?_⟩
    · rw [stage, Progress.outlook_first, Progress.outlook_done, found, Option.map_some,
        Option.getD_some]
    · rw [stage]
      exact Nat.lt_of_lt_of_le (Nat.lt_succ_self 1) (Nat.le_succ 2)
  | none =>
    obtain ⟨attempt, second⟩ := answer_retry p.session id j.source
    refine ⟨.waiting (.second (Renderer.retry Engine.preview p.session id j.source).1),
      ⟨_, _, rfl⟩, ?_, ?_, ?_⟩
    · rw [second]
      exact rfl
    · rw [second, stage, Progress.outlook_first, Progress.outlook_second, found, Option.map_none,
        Option.getD_none, view_secondResult_answer]
    · rw [stage]
      exact Nat.lt_succ_self 2

theorem work?_advances (calm : j.progress.Calm)
    (worked : p.work? Engine.preview j id = some (events, q)) :
    events = [] ∧ ∃ progress, Advances p j progress q := by
  unfold work? at worked
  split at worked
  · cases worked
  · split at worked
    · next stage =>
      cases worked
      exact ⟨rfl, callEngine_advances stage p id⟩
    · next reply stage =>
      rw [stage] at calm
      rw [applyReply_calm p calm] at worked
      cases worked
      exact ⟨rfl, takeFirst_advances stage p id⟩
    · next reply stage =>
      rw [stage] at calm
      rw [applyReply_calm p calm] at worked
      cases worked
      refine ⟨rfl, .done _, ⟨p.session, _, rfl⟩, trivial, ?_, ?_⟩
      · rw [stage]
        rfl
      · rw [stage]
        exact Nat.lt_succ_self 1
    · cases worked
    · cases worked

/-! ### Pools in which no slot is closed -/

/-- The engine only answers. -/
def ClosesNone (engine : Engine) : Prop := ∀ past call, (engine past call).teardown = none

theorem closesNone_preview : ClosesNone Engine.preview := fun _ _ => rfl

/-- If the engine only answers, work leads to the next wait and nothing else. -/
theorem work?_calm {engine : Engine} (closesNone : ClosesNone engine) (calm : j.progress.Calm)
    (worked : p.work? engine j id = some (events, q)) :
    ∃ session progress time, progress.Calm ∧
      q = { p with session := session }.await j progress time := by
  obtain ⟨-, ⟨stage, -, rfl⟩ | ⟨reply, r, stage, applied, rfl⟩ | ⟨reply, r, stage, applied, rfl⟩⟩ :=
    work?_cases worked
  · exact ⟨_, .waiting (.first (j.renderer.attempt engine p.session id j.source).1), _,
      closesNone _ _, rfl⟩
  · rw [stage] at calm
    rw [applyReply_calm p calm] at applied
    cases applied
    unfold takeFirst
    cases Renderer.firstResult? reply.answer with
    | some result => exact ⟨p.session, .done result, 0, trivial, rfl⟩
    | none =>
      exact ⟨_, .waiting (.second (Renderer.retry engine p.session id j.source).1), _,
        closesNone _ _, rfl⟩
  · rw [stage] at calm
    rw [applyReply_calm p calm] at applied
    cases applied
    exact ⟨p.session, .done (Renderer.secondResult reply.answer), 0, trivial, rfl⟩

theorem jobOf_spec (number slot token : Nat) (r : Renderer) (text : String) (now : Nat) :
    (jobOf number slot token r text now).number = number ∧
      (jobOf number slot token r text now).slot = slot ∧
      (jobOf number slot token r text now).token = token ∧
      (jobOf number slot token r text now).progress.outlook
        (jobOf number slot token r text now).source = textView text ∧
      (jobOf number slot token r text now).progress.Calm := by
  unfold jobOf textView
  cases Diagram.prepare text <;> exact ⟨rfl, rfl, rfl, rfl, trivial⟩

/-- No slot is closed, and no answer that is waited for closes one. -/
structure Undisturbed (p : Pool) : Prop where
  opened : ∀ slot ∈ p.slots, slot.closed = false
  calm : ∀ j ∈ p.jobs, j.progress.Calm

theorem Undisturbed.await (undisturbed : Undisturbed p) {progress : Progress}
    (calm : progress.Calm) (session : Session) (j : Job) (time : Nat) :
    Undisturbed ({ p with session := session }.await j progress time) where
  opened := undisturbed.opened
  calm := by
    intro k inside
    rcases List.mem_append.mp inside with other | same
    · exact undisturbed.calm k (List.mem_filter.mp other).1
    · obtain rfl := List.mem_singleton.mp same
      exact calm

theorem Undisturbed.leave (undisturbed : Undisturbed p) (number : Nat) (outcome : Outcome) :
    Undisturbed (p.leave number outcome) where
  opened := undisturbed.opened
  calm k remains := undisturbed.calm k (List.mem_filter.mp remains).1

theorem closed_finish (slot : Slot) (token : Nat) (result : Result) :
    (slot.finish token result).2.closed = slot.closed := by
  unfold Slot.finish
  split <;> rfl

theorem opened_set {slots : List Slot} (opened : ∀ s ∈ slots, s.closed = false) (slot : Slot)
    (new : slot.closed = false) (i : Nat) : ∀ s ∈ slots.set i slot, s.closed = false := by
  intro s member
  rcases List.mem_or_eq_of_mem_set member with old | rfl
  · exact opened s old
  · exact new

theorem Undisturbed.bring {slot : Slot} (undisturbed : Undisturbed p) (member : slot ∈ p.slots)
    (result : Result) : Undisturbed (p.bring j slot result).2 := by
  have stays := (closed_finish slot j.token result).trans (undisturbed.opened slot member)
  have placed : Undisturbed
      { p with slots := p.slots.set j.slot (slot.finish j.token result).2 } :=
    ⟨opened_set undisturbed.opened _ stays j.slot, undisturbed.calm⟩
  exact placed.leave j.number _

/-- An open slot takes a submission. -/
theorem submit_of_open {slot : Slot} (opened : slot.closed = false) (p : Pool) (i : Nat)
    (r : Renderer) (text : String) :
    (p.submit i slot r text).2 =
      { p with
        submitted := p.submitted + 1
        slots := p.slots.set i { slot with
          generation := slot.generation + 1, result := .loading, published := slot.published + 1 }
        jobs := p.jobs ++ [jobOf p.submitted i (slot.generation + 1) r text p.session.now] } := by
  have begins := Slot.begin?_eq_some_iff.mpr ⟨opened, rfl, rfl⟩
  simp only [submit, begins]

theorem Undisturbed.submit {slot : Slot} (undisturbed : Undisturbed p) (member : slot ∈ p.slots)
    (i : Nat) (r : Renderer) (text : String) : Undisturbed (p.submit i slot r text).2 := by
  have opened := undisturbed.opened slot member
  rw [submit_of_open opened]
  constructor
  · exact opened_set undisturbed.opened { slot with
      generation := slot.generation + 1, result := .loading, published := slot.published + 1 }
      opened i
  intro k inside
  rcases List.mem_append.mp inside with old | new
  · exact undisturbed.calm k old
  · rw [List.mem_singleton.mp new]
    exact (jobOf_spec ..).2.2.2.2

theorem exists_bring_of_settle? {slot : Slot} (settled : p.settle? j slot = some (events, q)) :
    ∃ result, result.view = j.progress.outlook j.source ∧ q = (p.bring j slot result).2 := by
  unfold settle? at settled
  split at settled
  · next result ready =>
    exact ⟨result, ready ▸ rfl, (congrArg Prod.snd (Option.some.inj settled)).symm⟩
  · cases settled
  · cases settled

theorem exists_bring_of_bring? {slot : Slot} (brought : p.bring? j slot = some (events, q)) :
    ∃ result, result.view = j.progress.outlook j.source ∧ q = (p.bring j slot result).2 := by
  unfold bring? at brought
  split at brought
  · next result ready =>
    exact ⟨result, ready ▸ rfl, (congrArg Prod.snd (Option.some.inj brought)).symm⟩
  · cases brought
  · cases brought

theorem abandon?_eq_some {slot : Slot} (abandoned : p.abandon? j slot = some (events, q)) :
    slot.generation ≠ j.token ∧ q = p.leave j.number .superseded := by
  unfold abandon? at abandoned
  split at abandoned
  · cases abandoned
  all_goals
    split at abandoned
    · cases abandoned
    · next changed =>
      cases abandoned
      exact ⟨changed, rfl⟩

theorem Undisturbed.stepBy {engine : Engine} (undisturbed : Undisturbed p)
    (closesNone : ClosesNone engine) (step : StepBy Move.keepsOpen engine p q) :
    Undisturbed q := by
  obtain ⟨m, events, keepsOpen, step⟩ := step
  cases m with
  | teardown => cases keepsOpen
  | submit i r text =>
    obtain ⟨slot, found, submits⟩ := Option.map_eq_some_iff.mp step
    have submitted := undisturbed.submit (List.mem_of_getElem? found) i r text
    rwa [submits] at submitted
  | work number =>
    obtain ⟨⟨j, slot⟩, found, worked⟩ := Option.bind_eq_some_iff.mp step
    have calm := undisturbed.calm j (jobWithSlot?_eq_some found).1
    obtain ⟨session, progress, time, calm, rfl⟩ := work?_calm closesNone calm worked
    exact undisturbed.await calm session j time
  | settle number =>
    obtain ⟨⟨j, slot⟩, found, settled⟩ := Option.bind_eq_some_iff.mp step
    obtain ⟨result, -, rfl⟩ := exists_bring_of_settle? settled
    exact undisturbed.bring (List.mem_of_getElem? (jobWithSlot?_eq_some found).2.2) result
  | select number watchFirst =>
    obtain ⟨⟨j, slot⟩, found, selected⟩ := Option.bind_eq_some_iff.mp step
    rcases select?_cases selected with brought | abandoned
    · obtain ⟨result, -, rfl⟩ := exists_bring_of_bring? brought
      exact undisturbed.bring (List.mem_of_getElem? (jobWithSlot?_eq_some found).2.2) result
    · obtain ⟨-, rfl⟩ := abandon?_eq_some abandoned
      exact undisturbed.leave j.number .superseded
  | elapse time =>
    cases step
    exact ⟨undisturbed.opened, undisturbed.calm⟩

theorem Undisturbed.runsBy {engine : Engine} (undisturbed : Undisturbed p)
    (closesNone : ClosesNone engine) (runs : RunsBy Move.keepsOpen engine p q) :
    Undisturbed q := by
  induction runs with
  | refl => exact undisturbed
  | tail _ last before => exact before.stepBy closesNone last

end Pool

end CatalogueViewer
