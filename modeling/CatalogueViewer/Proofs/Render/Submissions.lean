import CatalogueViewer.Proofs.Render.Outlook

/-!
# What becomes of one submission

`step?_does` says what a move does to a pool, to the last field.  From it: a submission under way is
the same after a move, or it was worked on, or it is new (`Does.origin`); calls are made by the work
on it only (`Does.calls`); and when it ends that is written down once (`Does.finished`,
`Accounted.after`).
-/

namespace CatalogueViewer

/-- The calls that a submission can make. -/
inductive Turn where
  | first
  | second
  deriving DecidableEq

namespace Progress

/-- The engine has been called for the submission. -/
def hasCalled : Progress → Bool
  | .settled _ | .waiting .debounce => false
  | .waiting (.first _) | .waiting (.second _) | .done _ => true

/-- The call that is pending. -/
def pending? : Progress → Option Turn
  | .waiting (.first _) => some .first
  | .waiting (.second _) => some .second
  | .settled _ | .waiting .debounce | .done _ => none

/-- The call that is made when the wait is over. -/
def next? : Progress → Option Turn
  | .waiting .debounce => some .first
  | .waiting (.first reply) =>
    match Renderer.firstResult? reply.answer with
    | some _ => none
    | none => some .second
  | .settled _ | .waiting (.second _) | .done _ => none

/-- The submission waits for time to pass. -/
def isWaiting : Progress → Bool
  | .waiting _ => true
  | .settled _ | .done _ => false

theorem exists_of_isWaiting {progress : Progress} (waits : progress.isWaiting = true) :
    ∃ stage, progress = .waiting stage := by
  cases progress with
  | waiting stage => exact ⟨stage, rfl⟩
  | settled | done => cases waits

theorem hasCalled_of_pending? {progress : Progress} {turn : Turn}
    (pending : progress.pending? = some turn) : progress.hasCalled = true := by
  cases progress with
  | settled | done => cases pending
  | waiting stage =>
    cases stage with
    | debounce => cases pending
    | first | second => rfl

theorem eq_debounce {progress : Progress} (waits : progress.isWaiting = true)
    (uncalled : progress.hasCalled = false) : progress = .waiting .debounce := by
  obtain ⟨stage, rfl⟩ := exists_of_isWaiting waits
  cases stage with
  | debounce => rfl
  | first | second => cases uncalled

end Progress

namespace Pool

variable {engine : Engine} {p q : Pool} {j : Job} {id : SlotId} {slot : Slot} {m : Move}
  {events : List Event} {outcome : Outcome}

/-! ### What a move does -/

/-- The submission ends.  What it commits is the result that it has come to. -/
structure Ends (p : Pool) (j : Job) (outcome : Outcome) (events : List Event) (q : Pool) :
    Prop where
  events : events = [.ended j.number outcome]
  finished : q.finished = p.finished ++ [⟨j.number, outcome, p.session.now⟩]
  jobs : q.jobs = p.jobs.filter fun k => k.number != j.number
  session : q.session = p.session
  submitted : q.submitted = p.submitted
  come : ∀ result, outcome = .committed result →
    j.progress = .settled result ∨ j.progress = .done result

theorem ends_bring (p : Pool) (slot : Slot) {result : Result}
    (come : j.progress = .settled result ∨ j.progress = .done result) :
    ∃ outcome, Ends p j outcome (p.bring j slot result).1 (p.bring j slot result).2 := by
  refine ⟨(slot.finish j.token result).1, rfl, rfl, rfl, rfl, rfl, fun other commits => ?_⟩
  unfold Slot.finish at commits
  split at commits
  · cases commits
    exact come
  · cases commits

theorem ends_settle? (settled : p.settle? j slot = some (events, q)) :
    ∃ outcome, Ends p j outcome events q := by
  unfold settle? at settled
  split at settled
  · next result ready =>
    have ends := ends_bring p slot (Or.inl ready)
    rwa [Option.some.inj settled] at ends
  · cases settled
  · cases settled

theorem ends_select? {watchFirst : Bool}
    (selected : p.select? j slot watchFirst = some (events, q)) :
    ∃ outcome, Ends p j outcome events q := by
  rcases select?_cases selected with brought | abandoned
  · unfold bring? at brought
    split at brought
    · next result ready =>
      have ends := ends_bring p slot (Or.inr ready)
      rwa [Option.some.inj brought] at ends
    · cases brought
    · cases brought
  · unfold abandon? at abandoned
    split at abandoned
    · cases abandoned
    all_goals
      obtain ⟨-, same⟩ := Option.ite_none_left_eq_some.mp abandoned
      cases same
      exact ⟨.superseded, rfl, rfl, rfl, rfl, rfl, fun _ impossible => (by cases impossible)⟩

/-- All that a move can do. -/
inductive Does (engine : Engine) (p : Pool) : Move → List Event → Pool → Prop where
  | begins {i : Nat} {slot : Slot} (r : Renderer) (text : String)
      (found : p.slots[i]? = some slot) (opened : slot.closed = false) :
      Does engine p (.submit i r text) [.began p.submitted i] { p with
        submitted := p.submitted + 1
        slots := p.slots.set i { slot with
          generation := slot.generation + 1, result := .loading, published := slot.published + 1 }
        jobs := p.jobs ++ [jobOf p.submitted i (slot.generation + 1) r text p.session.now] }
  | refuses {i : Nat} {slot : Slot} (r : Renderer) (text : String)
      (found : p.slots[i]? = some slot) (closed : slot.closed = true) :
      Does engine p (.submit i r text) [.ended p.submitted .superseded]
        ({ p with submitted := p.submitted + 1 }.leave p.submitted .superseded)
  | closes (i : Nat) {events : List Event} {q : Pool} (change : MayClose p (events, q)) :
      Does engine p (.teardown i) events q
  | works {j : Job} {slot : Slot} {events : List Event} {q : Pool}
      (found : p.jobWithSlot? j.number = some (j, slot))
      (worked : p.work? engine j slot.id = some (events, q)) :
      Does engine p (.work j.number) events q
  | ends {m : Move} {j : Job} {outcome : Outcome} {events : List Event} {q : Pool}
      (looks : m = .settle j.number ∨ ∃ watchFirst, m = .select j.number watchFirst)
      (member : j ∈ p.jobs) (ends : Ends p j outcome events q) : Does engine p m events q
  | elapses (time : Nat) :
      Does engine p (.elapse time) [] { p with session := p.session.elapse time }

theorem step?_does (step : p.step? engine m = some (events, q)) : Does engine p m events q := by
  cases m with
  | submit i r text =>
    obtain ⟨slot, found, same⟩ := Option.map_eq_some_iff.mp step
    cases closed : slot.closed with
    | true =>
      unfold submit at same
      rw [Slot.begin?_eq_none_iff.mpr closed] at same
      cases same
      exact .refuses r text found closed
    | false =>
      unfold submit at same
      rw [Slot.begin?_eq_some_iff.mpr ⟨closed, rfl, rfl⟩] at same
      cases same
      exact .begins r text found closed
  | teardown i =>
    have change := closeSlot_mayClose p i
    rw [Option.some.inj step] at change
    exact .closes i change
  | work number =>
    obtain ⟨⟨j, slot⟩, found, worked⟩ := Option.bind_eq_some_iff.mp step
    obtain ⟨-, rfl, -⟩ := jobWithSlot?_eq_some found
    exact .works found worked
  | settle number =>
    obtain ⟨⟨j, slot⟩, found, settled⟩ := Option.bind_eq_some_iff.mp step
    obtain ⟨member, rfl, -⟩ := jobWithSlot?_eq_some found
    obtain ⟨outcome, ends⟩ := ends_settle? settled
    exact .ends (Or.inl rfl) member ends
  | select number watchFirst =>
    obtain ⟨⟨j, slot⟩, found, selected⟩ := Option.bind_eq_some_iff.mp step
    obtain ⟨member, rfl, -⟩ := jobWithSlot?_eq_some found
    obtain ⟨outcome, ends⟩ := ends_select? selected
    exact .ends (Or.inr ⟨watchFirst, rfl⟩) member ends
  | elapse time =>
    cases step
    exact .elapses time

theorem isWaiting_of_work? (worked : p.work? engine j id = some (events, q)) :
    j.progress.isWaiting = true := by
  obtain ⟨-, ⟨stage, -, -⟩ | ⟨reply, r, stage, -, -⟩ | ⟨reply, r, stage, -, -⟩⟩ :=
    work?_cases worked
  all_goals
    rw [stage]
    rfl

/-- Work on a submission calls the engine, or brings the wait for it to an end. -/
theorem work?_hasCalled (worked : p.work? engine j id = some (events, q)) :
    ∃ r session progress time, MayClose p (events, r) ∧
      (progress.hasCalled = true ∧ progress.pending? = j.progress.next?) ∧
      q = { r with session := session }.await j progress time := by
  obtain ⟨-, ⟨stage, rfl, rfl⟩ | ⟨reply, r, stage, applied, rfl⟩ | ⟨reply, r, stage, applied, rfl⟩⟩ :=
    work?_cases worked
  · exact ⟨p, _, _, _, .nothing, ⟨rfl, by rw [stage]; rfl⟩, rfl⟩
  · have change := applyReply_mayClose p reply
    rw [applied] at change
    unfold takeFirst
    rw [stage, Progress.next?]
    cases Renderer.firstResult? reply.answer with
    | some result => exact ⟨r, r.session, _, _, change, ⟨rfl, rfl⟩, rfl⟩
    | none => exact ⟨r, _, _, _, change, ⟨rfl, rfl⟩, rfl⟩
  · have change := applyReply_mayClose p reply
    rw [applied] at change
    exact ⟨r, r.session, _, _, change, ⟨rfl, by rw [stage]; rfl⟩, rfl⟩

/-! ### Submissions under way -/

/-- Where a submission comes from that is under way after a move. -/
inductive Origin (p : Pool) (m : Move) (events : List Event) (j : Job) : Prop where
  | kept (old : j ∈ p.jobs)
  | worked {k : Job} (old : k ∈ p.jobs) (move : m = .work k.number) (due : k.due ≤ p.session.now)
      (number : j.number = k.number) (slot : j.slot = k.slot) (source : j.source = k.source)
      (called : j.progress.hasCalled = true) (token : j.token = k.token)
      (pending : j.progress.pending? = k.progress.next?) (waits : k.progress.isWaiting = true)
  | began {i token : Nat} {r : Renderer} {text : String} (move : m = .submit i r text)
      (event : .began p.submitted i ∈ events)
      (same : j = jobOf p.submitted i token r text p.session.now)

theorem Does.origin (does : Does engine p m events q) (member : j ∈ q.jobs) :
    Origin p m events j := by
  cases does with
  | begins r text =>
    rcases List.mem_append.mp member with old | new
    · exact .kept old
    · exact .began rfl List.mem_cons_self (List.mem_singleton.mp new)
  | refuses => exact .kept (List.mem_filter.mp member).1
  | closes i change => exact .kept (change.jobs ▸ member)
  | @works k slot _ _ found worked =>
    have inside := (jobWithSlot?_eq_some found).1
    obtain ⟨r, session, progress, time, change, ⟨called, pending⟩, rfl⟩ := work?_hasCalled worked
    rcases List.mem_append.mp member with other | new
    · exact .kept (change.jobs ▸ (List.mem_filter.mp other).1)
    · obtain rfl := List.mem_singleton.mp new
      exact .worked inside rfl (work?_cases worked).1 rfl rfl rfl called rfl pending
        (isWaiting_of_work? worked)
  | ends _ _ ends =>
    rw [ends.jobs] at member
    exact .kept (List.mem_filter.mp member).1
  | elapses => exact .kept member

/-- A submission stays under way until it ends. -/
theorem Does.stays (does : Does engine p m events q) (orderly : Orderly p) (member : j ∈ p.jobs) :
    (∃ k ∈ q.jobs, k.number = j.number) ∨ ∃ outcome, .ended j.number outcome ∈ events := by
  cases does with
  | begins => exact Or.inl ⟨j, List.mem_append_left _ member, rfl⟩
  | refuses =>
    have other : j.number ≠ p.submitted := Nat.ne_of_lt (orderly.numbered j member)
    exact Or.inl ⟨j, List.mem_filter.mpr ⟨member, by simpa using other⟩, rfl⟩
  | closes i change => exact Or.inl ⟨j, change.jobs.symm ▸ member, rfl⟩
  | @works k slot _ _ _ worked =>
    obtain ⟨r, session, progress, time, change, -, rfl⟩ := work?_hasCalled worked
    by_cases same : j.number = k.number
    · exact Or.inl ⟨_, List.mem_append_right _ (List.mem_singleton_self _), same.symm⟩
    · have stays : j ∈ r.jobs := change.jobs.symm ▸ member
      refine Or.inl ⟨j, List.mem_append_left _ (List.mem_filter.mpr ⟨stays, ?_⟩), rfl⟩
      simpa using same
  | @ends _ k outcome _ _ _ inside ends =>
    by_cases same : j.number = k.number
    · refine Or.inr ⟨outcome, ?_⟩
      rw [ends.events, same]
      exact List.mem_singleton_self _
    · refine Or.inl ⟨j, ?_, rfl⟩
      rw [ends.jobs]
      exact List.mem_filter.mpr ⟨member, by simpa using same⟩
  | elapses => exact Or.inl ⟨j, member, rfl⟩

/-! ### The calls -/

/-- A call of the engine, and for which submission to which slot it was made. -/
structure Made where
  number : Nat
  slot : Nat
  call : Call

/-- The calls that a move makes. -/
def callsOf (m : Move) (p q : Pool) : List Made :=
  match m with
  | .work number =>
    match p.jobWithSlot? number with
    | none => []
    | some (j, _) =>
      (q.session.calls.drop p.session.calls.length).map fun call => ⟨number, j.slot, call⟩
  | .submit .. | .teardown _ | .settle _ | .select .. | .elapse _ => []

/-- The call gives the source to the engine, as it is or with all group titles in quotes. -/
def Sends (source : String) (call : Call) : Prop :=
  call.source = source ∨ call.source = String.ofList (Diagram.recover source.toList)

theorem work?_calls (worked : p.work? engine j id = some (events, q)) :
    ∃ more, q.session.calls = p.session.calls ++ more ∧
      ∀ call ∈ more, Sends j.source call ∧ call.time = p.session.now := by
  obtain ⟨-, ⟨-, -, rfl⟩ | ⟨reply, r, -, applied, rfl⟩ | ⟨reply, r, -, applied, rfl⟩⟩ :=
    work?_cases worked
  · have called :=
      Session.calls_call engine (p.session.configure j.renderer.settings) id "" j.source
    rw [Session.calls_configure, Session.now_configure] at called
    exact ⟨_, called, List.forall_mem_singleton.mpr ⟨Or.inl rfl, rfl⟩⟩
  · have change := applyReply_mayClose p reply
    rw [applied] at change
    rw [session_takeFirst, change.session]
    split
    · exact ⟨_, Session.calls_call .., List.forall_mem_singleton.mpr ⟨Or.inr rfl, rfl⟩⟩
    · exact ⟨[], (List.append_nil _).symm, List.forall_mem_nil _⟩
  · have change := applyReply_mayClose p reply
    rw [applied] at change
    refine ⟨[], ?_, List.forall_mem_nil _⟩
    rw [List.append_nil, ← change.session]
    rfl

/-- The call is made by the work on the submission, whose wait is over. -/
structure MadeBy (p : Pool) (j : Job) (c : Made) : Prop where
  number : j.number = c.number
  slot : j.slot = c.slot
  due : j.due ≤ p.session.now
  sends : Sends j.source c.call
  time : c.call.time = p.session.now

/-- All calls that are made meanwhile are made by the work on a submission. -/
structure Calls (p : Pool) (m : Move) (q : Pool) : Prop where
  calls : q.session.calls = p.session.calls ++ (callsOf m p q).map Made.call
  made : ∀ c ∈ callsOf m p q, ∃ j ∈ p.jobs, MadeBy p j c

theorem calls_of_quiet (same : q.session.calls = p.session.calls)
    (quiet : ∀ number, m ≠ .work number) : Calls p m q := by
  have none : callsOf m p q = [] := by
    cases m with
    | work number => exact absurd rfl (quiet number)
    | submit | teardown | settle | select | elapse => rfl
  constructor
  · rw [none, same]
    exact (List.append_nil _).symm
  · rw [none]
    exact List.forall_mem_nil _

theorem calls_of_work? {slot : Slot} (found : p.jobWithSlot? j.number = some (j, slot))
    (worked : p.work? engine j slot.id = some (events, q)) : Calls p (.work j.number) q := by
  obtain ⟨more, called, sends⟩ := work?_calls worked
  have made : callsOf (.work j.number) p q = more.map fun call => ⟨j.number, j.slot, call⟩ := by
    simp only [callsOf, found, called, List.drop_left]
  constructor
  · rw [made, called, List.map_map, Function.comp_def, List.map_id']
  · intro c inside
    rw [made] at inside
    obtain ⟨call, new, rfl⟩ := List.mem_map.mp inside
    obtain ⟨source, time⟩ := sends call new
    exact ⟨j, (jobWithSlot?_eq_some found).1, rfl, rfl, (work?_cases worked).1, source, time⟩

/-- Whoever has waited long enough for it calls the engine when worked on. -/
theorem exists_call (engine : Engine) (orderly : Orderly p) (member : j ∈ p.jobs)
    (stage : j.progress = .waiting .debounce) (due : j.due ≤ p.session.now) :
    ∃ q, p.step? engine (.work j.number) = some ([], q) ∧
      ∃ c ∈ callsOf (.work j.number) p q, c.number = j.number ∧ c.slot = j.slot := by
  obtain ⟨slot, -, found⟩ := jobWithSlot?_of_mem orderly member
  have attempted : p.session.Attempted engine (p.callEngine engine j slot.id).session :=
    .first j.renderer slot.id j.source
  obtain ⟨call, -, called, -⟩ := attempted.exists_call
  refine ⟨p.callEngine engine j slot.id, ?_, ⟨j.number, j.slot, call⟩, ?_, rfl, rfl⟩
  · rw [step?, found]
    show p.work? engine j slot.id = _
    rw [work?, if_neg (Nat.not_lt.mpr due), stage]
  · simp [callsOf, found, called]

theorem Does.calls (does : Does engine p m events q) : Calls p m q := by
  cases does with
  | begins => exact calls_of_quiet rfl nofun
  | refuses => exact calls_of_quiet rfl nofun
  | closes i change => exact calls_of_quiet (by rw [change.session]) nofun
  | works found worked => exact calls_of_work? found worked
  | ends looks member ends =>
    refine calls_of_quiet (by rw [ends.session]) ?_
    rcases looks with rfl | ⟨watchFirst, rfl⟩ <;> exact nofun
  | elapses => exact calls_of_quiet rfl nofun

theorem Does.now_le (does : Does engine p m events q) : p.session.now ≤ q.session.now := by
  cases does with
  | begins | refuses => exact Nat.le_refl _
  | closes i change => exact Nat.le_of_eq (congrArg Session.now change.session.symm)
  | works found worked => exact Nat.le_of_eq ((work?_session worked).now nofun).symm
  | ends looks member ends => exact Nat.le_of_eq (congrArg Session.now ends.session.symm)
  | elapses time => exact Nat.le_add_right _ _

/-! ### The end -/

/-- What is written down of an event. -/
def Event.finished? (now : Nat) : Event → Option Finished
  | .ended number outcome => some ⟨number, outcome, now⟩
  | .began .. | .tornDown _ => none

theorem MayClose.finished {r : Pool} (change : MayClose p (events, r)) :
    r.finished = p.finished ++ events.filterMap (Event.finished? p.session.now) := by
  cases change <;> exact (List.append_nil p.finished).symm

/-- Every end is written down with its time, and nothing else is. -/
theorem Does.finished (does : Does engine p m events q) :
    q.finished = p.finished ++ events.filterMap (Event.finished? p.session.now) := by
  cases does with
  | begins => exact (List.append_nil p.finished).symm
  | refuses => rfl
  | closes i change => exact change.finished
  | works found worked =>
    obtain ⟨r, session, progress, time, change, -, rfl⟩ := work?_hasCalled worked
    exact change.finished
  | ends looks member ends =>
    rw [ends.finished, ends.events]
    rfl
  | elapses => exact (List.append_nil p.finished).symm

theorem mem_finished_iff (does : Does engine p m events q) {f : Finished} : f ∈ q.finished ↔
    f ∈ p.finished ∨ .ended f.number f.outcome ∈ events ∧ f.time = p.session.now := by
  rw [does.finished, List.mem_append, List.mem_filterMap]
  apply or_congr_right
  constructor
  · rintro ⟨e, member, written⟩
    cases e with
    | ended number outcome =>
      cases written
      exact ⟨member, rfl⟩
    | began | tornDown => cases written
  · rintro ⟨member, time⟩
    exact ⟨_, member, by rw [Event.finished?, ← time]⟩

theorem MayClose.no_end {r : Pool} (change : MayClose p (events, r)) (number : Nat)
    (outcome : Outcome) : .ended number outcome ∉ events := by
  intro ended
  cases change with
  | nothing => cases ended
  | closed => cases List.mem_singleton.mp ended

/-- Whoever ends was under way, and commits what it has come to; or it was refused. -/
theorem Does.ended (does : Does engine p m events q) {number : Nat}
    (ended : .ended number outcome ∈ events) :
    (number = p.submitted ∧ outcome = .superseded) ∨ ∃ j ∈ p.jobs, j.number = number ∧
      ∀ result, outcome = .committed result →
        j.progress = .settled result ∨ j.progress = .done result := by
  cases does with
  | begins => cases List.mem_singleton.mp ended
  | refuses =>
    cases List.mem_singleton.mp ended
    exact Or.inl ⟨rfl, rfl⟩
  | closes i change => exact absurd ended (change.no_end number outcome)
  | works found worked =>
    obtain ⟨r, session, progress, time, change, -, rfl⟩ := work?_hasCalled worked
    exact absurd ended (change.no_end number outcome)
  | @ends _ j other _ _ looks member ends =>
    rw [ends.events] at ended
    cases List.mem_singleton.mp ended
    exact Or.inr ⟨j, member, rfl, ends.come⟩
  | elapses => cases ended

/-- The submissions that have ended are no longer under way, and none of them ends twice. -/
structure Accounted (p : Pool) : Prop where
  numbered : ∀ f ∈ p.finished, f.number < p.submitted
  once : (p.finished.map Finished.number).Nodup
  left : ∀ f ∈ p.finished, ∀ j ∈ p.jobs, j.number ≠ f.number

theorem Accounted.of_numbers (accounted : Accounted p) (finished : q.finished = p.finished)
    (submitted : p.submitted ≤ q.submitted)
    (numbers : ∀ j ∈ q.jobs, p.submitted ≤ j.number ∨ ∃ k ∈ p.jobs, k.number = j.number) :
    Accounted q where
  numbered := by
    rw [finished]
    exact fun f member => Nat.lt_of_lt_of_le (accounted.numbered f member) submitted
  once := finished ▸ accounted.once
  left := by
    intro f member j inside same
    rw [finished] at member
    rcases numbers j inside with new | ⟨k, old, number⟩
    · have bound := accounted.numbered f member
      omega
    · exact accounted.left f member k old (number.trans same)

theorem Accounted.concat (accounted : Accounted p) {f : Finished}
    (finished : q.finished = p.finished ++ [f]) (submitted : p.submitted ≤ q.submitted)
    (given : f.number < q.submitted) (fresh : ∀ g ∈ p.finished, g.number ≠ f.number)
    (jobs : q.jobs = p.jobs.filter fun j => j.number != f.number) : Accounted q where
  numbered := by
    rw [finished, List.forall_mem_append, List.forall_mem_singleton]
    exact ⟨fun g member => Nat.lt_of_lt_of_le (accounted.numbered g member) submitted, given⟩
  once := by
    rw [finished, List.map_append, List.nodup_append]
    refine ⟨accounted.once, List.nodup_singleton _, fun n old k new same => ?_⟩
    obtain ⟨g, member, rfl⟩ := List.mem_map.mp old
    obtain rfl := List.mem_singleton.mp new
    exact fresh g member same
  left := by
    rw [finished, jobs, List.forall_mem_append, List.forall_mem_singleton]
    constructor
    · exact fun g member j inside => accounted.left g member j (List.mem_filter.mp inside).1
    · intro j inside
      simpa using (List.mem_filter.mp inside).2

theorem Accounted.after (accounted : Accounted p) (orderly : Orderly p)
    (does : Does engine p m events q) : Accounted q := by
  cases does with
  | begins r text =>
    refine accounted.of_numbers rfl (Nat.le_succ _) fun j member => ?_
    rcases List.mem_append.mp member with old | new
    · exact Or.inr ⟨j, old, rfl⟩
    · rw [List.mem_singleton.mp new, (jobOf_spec ..).1]
      exact Or.inl (Nat.le_refl _)
  | refuses =>
    refine accounted.concat rfl (Nat.le_succ _) (Nat.lt_succ_self _) (fun g member => ?_) rfl
    exact Nat.ne_of_lt (accounted.numbered g member)
  | closes i change =>
    refine accounted.of_numbers (by cases change <;> rfl)
      (by cases change <;> exact Nat.le_refl _) ?_
    exact fun j member => Or.inr ⟨j, change.jobs ▸ member, rfl⟩
  | works found worked =>
    have member := (jobWithSlot?_eq_some found).1
    have effect := work?_effect engine member worked
    obtain ⟨r, session, progress, time, change, -, rfl⟩ := work?_hasCalled worked
    refine accounted.of_numbers (by cases change <;> rfl) effect.submitted_le fun j inside => ?_
    rcases List.mem_append.mp inside with other | new
    · exact Or.inr ⟨j, change.jobs ▸ (List.mem_filter.mp other).1, rfl⟩
    · obtain rfl := List.mem_singleton.mp new
      exact Or.inr ⟨_, member, rfl⟩
  | ends looks member ends =>
    refine accounted.concat ends.finished (Nat.le_of_eq ends.submitted.symm) ?_ ?_ ends.jobs
    · rw [ends.submitted]
      exact orderly.numbered _ member
    · exact fun g old same => accounted.left g old _ member same.symm
  | elapses =>
    exact accounted.of_numbers rfl (Nat.le_refl _) fun j member => Or.inr ⟨j, member, rfl⟩

end Pool

end CatalogueViewer
