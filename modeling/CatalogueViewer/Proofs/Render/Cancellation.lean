import CatalogueViewer.Proofs.Render.Outcome
import CatalogueViewer.Proofs.Render.Overtaking
import CatalogueViewer.Proofs.Render.Sessions

/-!
# Calls for submissions that have been overtaken

A submission looks at the generation of its slot only when it is woken while it waits, and not
between two steps of its work.  So it may call the engine once more after it has been overtaken:
where its wait ends in the moment in which it is overtaken, and where the first answer itself closes
the slot.  `late_calls` says that there is no other way, and that it is over in that moment.
-/

namespace CatalogueViewer

namespace Pool

variable {engine : Engine} {p q r : Pool} {j : Job} {id : SlotId} {m : Move} {number i : Nat}
  {past last : List Event}

/-- The move starts a call of the engine on behalf of the submission. -/
def CallsFor (number : Nat) (p : Pool) (m : Move) (q : Pool) : Prop :=
  m = .work number ∧ ∃ call, q.session.calls = p.session.calls ++ [call]

/-- Something in `past` has overtaken the submissions to the slot. -/
def Overtakes (i : Nat) (past : List Event) : Prop := ∃ e ∈ past, e.overtakes i = true

/-- What the submission waits for leads to a call after its slot was overtaken, in the past or by the
answer itself. -/
inductive CallsLate (i : Nat) (past : List Event) : Progress → Prop where
  | first (overtaken : Overtakes i past) : CallsLate i past (.waiting .debounce)
  | second {reply : Reply} (again : Renderer.firstResult? reply.answer = none)
      (overtaken : Overtakes i past ∨ reply.teardown = some i) :
      CallsLate i past (.waiting (.first reply))

theorem overtakes_append {early late : List Event} :
    Overtakes i (early ++ late) ↔ Overtakes i early ∨ Overtakes i late := by
  simp only [Overtakes, List.mem_append, or_and_right, exists_or]

theorem not_overtakes_iff : ¬ Overtakes i past ↔ ∀ e ∈ past, e.overtakes i = false := by
  simp [Overtakes]

/-- The answer closes the slot if and only if it says so. -/
theorem overtakes_applyReply {reply : Reply} {events : List Event} (inside : i < p.slots.length)
    (applied : p.applyReply reply = (events, r)) :
    Overtakes i events ↔ reply.teardown = some i := by
  unfold applyReply at applied
  cases teardown : reply.teardown with
  | none =>
    rw [teardown] at applied
    cases applied
    simp [Overtakes]
  | some n =>
    simp only [teardown] at applied
    unfold closeSlot at applied
    cases found : p.slots[n]? with
    | none =>
      rw [found] at applied
      cases applied
      have outside := List.getElem?_eq_none_iff.mp found
      simp only [Overtakes, List.not_mem_nil, false_and, exists_false, Option.some.injEq, false_iff]
      omega
    | some slot =>
      rw [found] at applied
      cases applied
      simp [Overtakes, Event.overtakes]

/-- The work on a submission that has been overtaken, or is just being overtaken, calls the engine
exactly if that is what comes next. -/
theorem work?_calls_late_iff (worked : p.work? engine j id = some (last, q))
    (inside : i < p.slots.length) :
    ((∃ call, q.session.calls = p.session.calls ++ [call]) ∧ Overtakes i (past ++ last)) ↔
      CallsLate i past j.progress := by
  rw [overtakes_append]
  obtain ⟨-, ⟨stage, rfl, rfl⟩ | ⟨reply, r, stage, applied, rfl⟩ | ⟨reply, r, stage, applied, rfl⟩⟩ :=
    work?_cases worked
  · rw [stage]
    have attempted : p.session.Attempted engine (p.callEngine engine j id).session :=
      .first j.renderer id j.source
    obtain ⟨call, -, called, -⟩ := attempted.exists_call
    have quiet : ¬ Overtakes i [] := by simp [Overtakes]
    constructor
    · rintro ⟨-, overtaken⟩
      exact .first (overtaken.resolve_right quiet)
    · rintro ⟨overtaken⟩
      exact ⟨⟨call, called⟩, Or.inl overtaken⟩
  · have kept := applyReply_mayClose p reply
    rw [applied] at kept
    rw [stage, session_takeFirst, kept.session, overtakes_applyReply inside applied]
    constructor
    · rintro ⟨⟨call, called⟩, overtaken⟩
      by_cases again : Renderer.firstResult? reply.answer = none
      · exact .second again overtaken
      · rw [if_neg again] at called
        simp at called
    · rintro (_ | ⟨again, overtaken⟩)
      have attempted : p.session.Attempted engine _ := .second id j.source
      obtain ⟨call, -, called, -⟩ := attempted.exists_call
      rw [if_pos again]
      exact ⟨⟨call, called⟩, overtaken⟩
  · have kept := applyReply_mayClose p reply
    rw [applied] at kept
    have same : (r.await j (.done (Renderer.secondResult reply.answer)) 0).session = p.session :=
      kept.session
    rw [stage, same]
    constructor
    · rintro ⟨⟨call, called⟩, -⟩
      simp at called
    · intro impossible
      cases impossible

/-- Whoever has ended never comes back. -/
theorem Leads.gone (leads : Leads engine p q) (given : number < p.submitted)
    (gone : ∀ j ∈ p.jobs, j.number ≠ number) : ∀ j ∈ q.jobs, j.number ≠ number := by
  have kept := leads.induction
    (P := fun q => number < q.submitted ∧ ∀ j ∈ q.jobs, j.number ≠ number) ?_ ⟨given, gone⟩
  · exact kept.2
  · rintro p q events effect ⟨given, gone⟩
    refine ⟨Nat.lt_of_lt_of_le given effect.submitted_le, fun j member => ?_⟩
    rcases effect.job member with ⟨k, old, same, -⟩ | ⟨fresh, -⟩
    · exact same ▸ gone k old
    · omega

theorem step?_work_eq_none (gone : ∀ j ∈ p.jobs, j.number ≠ number) :
    p.step? engine (.work number) = none := by
  have nobody : p.job? number = none := by
    apply List.find?_eq_none.mpr
    intro j member
    simpa using gone j member
  simp [step?, jobWithSlot?, nobody]

theorem Tracks.isOvertaken_iff {token : Nat} (tracks : Tracks number i token past p)
    (member : j ∈ p.jobs) (same : j.number = number) :
    p.isOvertaken j = true ↔ Overtakes i past := by
  obtain ⟨rfl, rfl⟩ := tracks.held j member same
  obtain ⟨slot, found, generation, -⟩ := tracks.place
  have some : 0 < past.countP (Event.overtakes j.slot) ↔ Overtakes j.slot past :=
    List.countP_pos_iff
  rw [Pool.isOvertaken_iff found, ← some]
  omega

/-- The clock stands still as long as a submission that has been overtaken is under way. -/
theorem Tracks.instant {token : Nat} (tracks : Tracks number i token past p)
    (overtaken : Overtakes i past) (run : TimelyRun engine p q)
    (left : ∃ j ∈ q.jobs, j.number = number) : q.session.now = p.session.now := by
  have kept : ∃ later, Tracks number i token (past ++ later) q ∧
      ((∃ j ∈ q.jobs, j.number = number) → q.session.now = p.session.now) := by
    clear left
    induction run with
    | refl => exact ⟨[], by rwa [List.append_nil], fun _ => rfl⟩
    | @tail q r _ last before =>
      obtain ⟨m, ⟨events, step⟩, timely⟩ := last
      obtain ⟨later, tracks, still⟩ := before
      have effect := step?_effect engine step
      refine ⟨later ++ events, by rw [← List.append_assoc]; exact tracks.after effect, ?_⟩
      rintro ⟨j, member, same⟩
      have earlier : ∃ k ∈ q.jobs, k.number = number := by
        rcases effect.job member with ⟨k, old, equal, -⟩ | ⟨fresh, -⟩
        · exact ⟨k, old, equal.trans same⟩
        · have given := tracks.given
          omega
      obtain ⟨k, old, equal⟩ := earlier
      have stale := (tracks.isOvertaken_iff old equal).mpr
        (overtakes_append.mpr (Or.inl overtaken))
      -- Time would have had to wait for `k`.
      have stands : ∀ time, m ≠ .elapse time := by
        rintro time rfl
        have rests := timely time rfl k old
        rw [stale] at rests
        cases rests
      exact ((step?_session step).now stands).trans (still ⟨k, old, equal⟩)
  obtain ⟨_, -, still⟩ := kept
  exact still left

/-- What is so of the calls for a submission to slot `i` when `past` has happened since it began. -/
structure Late (engine : Engine) (number i : Nat) (past : List Event) (p : Pool) : Prop where
  /-- The submission calls the engine although it is overtaken. -/
  calls : ∀ m last q, p.step? engine m = some (last, q) →
    (CallsFor number p m q ∧ Overtakes i (past ++ last) ↔
      m = .work number ∧ ∃ j ∈ p.jobs, j.number = number ∧ CallsLate i past j.progress)
  others : ∀ m last q, p.step? engine m = some (last, q) → (∀ n, m ≠ .work n) →
    q.session.calls = p.session.calls
  /-- It may as well end, and then never calls again. -/
  ends : Overtakes i past → ∀ j ∈ p.jobs, j.number = number →
    ∃ m q, p.step? engine m = some ([.ended number .superseded], q) ∧ q.session = p.session ∧
      q.slots = p.slots ∧ ∀ r, Leads engine q r → r.step? engine (.work number) = none
  /-- It may do so only in the moment in which it is overtaken. -/
  instant : Overtakes i past → ∀ q, TimelyRun engine p q → (∃ j ∈ q.jobs, j.number = number) →
    q.session.now = p.session.now

theorem late_of_tracks {token : Nat} (orderly : Orderly p)
    (tracks : Tracks number i token past p) : Late engine number i past p where
  calls := by
    intro m last q step
    have inside : i < p.slots.length := by
      obtain ⟨slot, found, -⟩ := tracks.place
      exact (List.getElem?_eq_some_iff.mp found).1
    constructor
    · rintro ⟨⟨rfl, called⟩, overtaken⟩
      obtain ⟨⟨j, slot⟩, found, worked⟩ := Option.bind_eq_some_iff.mp step
      obtain ⟨member, same, -⟩ := jobWithSlot?_eq_some found
      exact ⟨rfl, j, member, same, (work?_calls_late_iff worked inside).mp ⟨called, overtaken⟩⟩
    · rintro ⟨rfl, j, member, same, late⟩
      obtain ⟨⟨k, slot⟩, found, worked⟩ := Option.bind_eq_some_iff.mp step
      obtain ⟨other, equal, -⟩ := jobWithSlot?_eq_some found
      obtain rfl := List.inj_on_of_nodup_map orderly.distinct member other (same.trans equal.symm)
      obtain ⟨called, overtaken⟩ := (work?_calls_late_iff worked inside).mpr late
      exact ⟨⟨rfl, called⟩, overtaken⟩
  others := fun m last q step idle => (step?_session step).calls idle
  ends := by
    rintro overtaken j member rfl
    obtain ⟨m, -, step⟩ : ∃ m : Move, m.works = true ∧ p.step? engine m = _ :=
      exists_end orderly member ((tracks.isOvertaken_iff member rfl).mpr overtaken)
    refine ⟨m, _, step, rfl, rfl, fun r leads => step?_work_eq_none (leads.gone tracks.given ?_)⟩
    intro k remains
    simpa using (List.mem_filter.mp remains).2
  instant := fun overtaken q run left => tracks.instant overtaken run left

/-- A submission that has been overtaken calls the engine in two cases only: its wait was over
before it looked at the generation, or its first answer failed and closed its slot.  In the moment
in which it was overtaken it can also end without a call, and it does not outlast that moment. -/
theorem late_calls {engine : Engine} {session : Session} {slots : List Slot} {before : List Move}
    {history : List Event} {p : Pool} {i : Nat} {slot : Slot}
    (reached : Pool.run? engine { session := session, slots := slots } before = some (history, p))
    (found : p.slots[i]? = some slot) (opened : slot.closed = false) (renderer : Renderer)
    (text : String) :
    ∃ q, p.step? engine (.submit i renderer text) = some ([.began p.submitted i], q) ∧
      ∀ moves past k, q.run? engine moves = some (past, k) →
        Late engine p.submitted i past k := by
  have leads : Leads engine _ p := ⟨before, history, reached⟩
  have orderly := leads.orderly (orderly_of_no_jobs rfl)
  obtain ⟨events, begun⟩ := submit_tracks orderly found opened renderer text
  have step : p.step? engine (.submit i renderer text) =
      some ([.began p.submitted i], (p.submit i slot renderer text).2) := by
    rw [step?, found, ← events]
    rfl
  refine ⟨_, step, fun moves past k run => ?_⟩
  have tracks := run?_induction engine []
    (fun _ _ _ _ effect tracks => tracks.after effect) run begun
  have onward : Leads engine _ k := ⟨moves, past, run⟩
  exact late_of_tracks (onward.orderly ((leads_of_step? step).orderly orderly)) tracks

/-- An engine that closes the first slot while it fails, once. -/
def selfClosing : Engine := fun past call =>
  if past.any fun e => e.call?.isSome then { answer := .ok ⟨call.attempt, "drawn"⟩ }
  else { teardown := some 0, answer := .error (.internal "slot closed") }

theorem exists_selfClosing_run :
    ∃ q k r : Pool,
      Pool.step? selfClosing { slots := [{ id := ⟨"s", by decide⟩ }] }
          (.submit 0 {} "graph TD\nA-->B") = some ([.began 0 0], q) ∧
      q.run? selfClosing [.elapse 200, .work 0] = some ([], k) ∧
      k.step? selfClosing (.work 0) = some ([.tornDown 0], r) ∧
      ∃ call, r.session.calls = k.session.calls ++ [call] ∧ call.attempt.text = "s-fixed-1" :=
  ⟨_, _, _, rfl, rfl, rfl, _, rfl, rfl⟩

theorem late_calls_selfClosing :
    ∃ q k r : Pool,
      Pool.step? selfClosing { slots := [{ id := ⟨"s", by decide⟩ }] }
          (.submit 0 {} "graph TD\nA-->B") = some ([.began 0 0], q) ∧
      q.run? selfClosing [.elapse 200, .work 0] = some ([], k) ∧ Late selfClosing 0 0 [] k ∧
      k.step? selfClosing (.work 0) = some ([.tornDown 0], r) ∧ CallsFor 0 k (.work 0) r := by
  obtain ⟨q, k, r, begun, during, last, call, called, -⟩ := exists_selfClosing_run
  have reached : Pool.run? selfClosing
      { session := {}, slots := [{ id := ⟨"s", by decide⟩ }] } [] = some ([], _) := rfl
  have found : [({ id := ⟨"s", by decide⟩ } : Slot)][0]? = some _ := rfl
  obtain ⟨next, step, late⟩ := late_calls reached found rfl {} "graph TD\nA-->B"
  cases step.symm.trans begun
  exact ⟨_, k, r, begun, during, late _ _ k during, last, rfl, call, called⟩

/-- No call is started on behalf of a submission that has been overtaken. -/
def CancelsCalls (engine : Engine) (slots : List Slot) : Prop :=
  ∀ before history p i renderer text q moves past k m last r,
    Pool.run? engine { slots := slots } before = some (history, p) →
    p.step? engine (.submit i renderer text) = some ([.began p.submitted i], q) →
    q.run? engine moves = some (past, k) → k.step? engine m = some (last, r) →
    Overtakes i (past ++ last) → ¬ CallsFor p.submitted k m r

/-- The engine closes the slot, and is called again. -/
theorem not_cancelsCalls_selfClosing :
    ¬ CancelsCalls selfClosing [{ id := ⟨"s", by decide⟩ }] := by
  intro cancels
  obtain ⟨q, k, r, begun, during, last, call, called, -⟩ := exists_selfClosing_run
  exact cancels [] [] _ 0 {} "graph TD\nA-->B" q _ [] k (.work 0) _ r rfl begun during last
    ⟨.tornDown 0, by simp, rfl⟩ ⟨rfl, call, called⟩

end Pool

end CatalogueViewer
