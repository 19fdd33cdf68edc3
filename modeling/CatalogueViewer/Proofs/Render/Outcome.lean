import CatalogueViewer.Proofs.Render.Effects

/-!
# How a submission ends

Whatever a scheduler does, a submission commits exactly if no other submission began on its slot
and nobody tore it down before its end.  A submission that ends otherwise leaves every slot alone.
`submission_outcome` says so of every run of a pool.
-/

namespace CatalogueViewer

namespace Pool

/-- The event overtakes the submissions that have begun on the slot. -/
def Event.overtakes (i : Nat) : Event → Bool
  | .began _ j => j == i
  | .tornDown j => j == i
  | .ended .. => false

/-- Each overtaking event raises the generation of a slot by one; no other event opens or closes
it. -/
theorem Effect.slot {p q : Pool} {events : List Event} (effect : Effect p q events) {i : Nat}
    {slot : Slot} (found : p.slots[i]? = some slot) :
    ∃ next, q.slots[i]? = some next ∧ next.id = slot.id ∧
      next.generation = slot.generation + events.countP (Event.overtakes i) ∧
      (events.countP (Event.overtakes i) = 0 → next.closed = slot.closed) := by
  have inside := (List.getElem?_eq_some_iff.mp found).1
  cases effect with
  | silent slots => exact ⟨slot, by rw [slots]; exact found, rfl, rfl, fun _ => rfl⟩
  | @tornDown k old place slots =>
    by_cases same : k = i
    · subst same
      have equal := Option.some.inj (place.symm.trans found)
      subst equal
      refine ⟨old.teardown, by rw [slots, List.getElem?_set_self inside], rfl, ?_, ?_⟩
      all_goals simp [Event.overtakes, Slot.teardown]
    · refine ⟨slot, by rw [slots, List.getElem?_set_ne same]; exact found, rfl, ?_⟩
      simp [Event.overtakes, same]
  | refused _ _ slots => exact ⟨slot, by rw [slots]; exact found, rfl, rfl, fun _ => rfl⟩
  | @began k token old begun j place accepted slots =>
    obtain ⟨_, _, raised⟩ := Slot.begin?_eq_some_iff.mp accepted
    by_cases same : k = i
    · subst same
      have equal := Option.some.inj (place.symm.trans found)
      subst equal
      refine ⟨begun, by rw [slots, List.getElem?_set_self inside], by rw [raised], ?_, ?_⟩
      all_goals simp [Event.overtakes, raised]
    · refine ⟨slot, by rw [slots, List.getElem?_set_ne same]; exact found, rfl, ?_⟩
      simp [Event.overtakes, same]
  | @committed j old result _ place _ slots =>
    by_cases same : j.slot = i
    · subst same
      have equal := Option.some.inj (place.symm.trans found)
      subst equal
      have shown := List.getElem?_set_self (a := { old with
        result := result, published := old.published + 1 }) inside
      rw [← slots] at shown
      exact ⟨_, shown, rfl, rfl, fun _ => rfl⟩
    · exact ⟨slot, by rw [slots, List.getElem?_set_ne same]; exact found, rfl, rfl, fun _ => rfl⟩
  | overtaken _ _ _ slots => exact ⟨slot, by rw [slots]; exact found, rfl, rfl, fun _ => rfl⟩

/-- Submission `number` holds `token` on slot `i`, and `past` is what has happened since. -/
structure Tracks (number i token : Nat) (past : List Event) (p : Pool) : Prop where
  given : number < p.submitted
  held : ∀ j ∈ p.jobs, j.number = number → j.slot = i ∧ j.token = token
  place : ∃ slot, p.slots[i]? = some slot ∧
    slot.generation = token + past.countP (Event.overtakes i) ∧
    (past.countP (Event.overtakes i) = 0 → slot.closed = false)

theorem Tracks.after {number i token : Nat} {past events : List Event} {p q : Pool}
    (tracks : Tracks number i token past p) (effect : Effect p q events) :
    Tracks number i token (past ++ events) q where
  given := Nat.lt_of_lt_of_le tracks.given effect.submitted_le
  held := by
    intro j member same
    rcases effect.job member with ⟨k, old, number, slot, held⟩ | ⟨fresh, _⟩
    · rw [← slot, ← held]
      exact tracks.held k old (number.trans same)
    · have given := tracks.given
      omega
  place := by
    obtain ⟨slot, found, generation, opened⟩ := tracks.place
    obtain ⟨next, shown, _, raised, kept⟩ := effect.slot found
    rw [List.countP_append]
    refine ⟨next, shown, by omega, fun none => ?_⟩
    rw [kept (by omega)]
    exact opened (by omega)

/-- The token is accepted as long as nothing has overtaken it. -/
theorem Tracks.accepts_iff {number i token : Nat} {past : List Event} {p : Pool} {slot : Slot}
    (tracks : Tracks number i token past p) (found : p.slots[i]? = some slot) :
    slot.accepts token = true ↔ ∀ e ∈ past, e.overtakes i = false := by
  obtain ⟨shown, place, generation, opened⟩ := tracks.place
  have same := Option.some.inj (place.symm.trans found)
  subst same
  have none_iff : past.countP (Event.overtakes i) = 0 ↔ ∀ e ∈ past, e.overtakes i = false := by
    simp [List.countP_eq_zero]
  rw [← none_iff, Slot.accepts_iff]
  constructor
  · intro accepted
    omega
  · intro none
    exact ⟨opened none, by omega⟩

theorem submit_of_closed (p : Pool) (i : Nat) {slot : Slot} (closed : slot.closed = true)
    (renderer : Renderer) (text : String) :
    (p.submit i slot renderer text).1 = [.ended p.submitted .superseded] ∧
      (p.submit i slot renderer text).2.slots = p.slots := by
  unfold submit
  rw [Slot.begin?_eq_none_iff.mpr closed]
  exact ⟨rfl, rfl⟩

/-- A submission that begins holds a token that nothing has overtaken yet. -/
theorem submit_tracks {p : Pool} (orderly : Orderly p) {i : Nat} {slot : Slot}
    (found : p.slots[i]? = some slot) (opened : slot.closed = false) (renderer : Renderer)
    (text : String) :
    (p.submit i slot renderer text).1 = [.began p.submitted i] ∧
      Tracks p.submitted i (slot.generation + 1) [] (p.submit i slot renderer text).2 := by
  have inside := (List.getElem?_eq_some_iff.mp found).1
  have begun := Slot.begin?_eq_some_iff.mpr ⟨opened, rfl, rfl⟩
  have events : (p.submit i slot renderer text).1 = [.began p.submitted i] := by
    unfold submit
    rw [begun]
  have effect := submit_effect found renderer text
  rw [events] at effect
  refine ⟨events, ?_⟩
  cases effect with
  | began j place accepted slots submitted jobs number same held =>
    have equal := Option.some.inj (place.symm.trans found)
    subst equal
    obtain ⟨_, given, raised⟩ := Slot.begin?_eq_some_iff.mp accepted
    refine ⟨by omega, ?_, _, by rw [slots, List.getElem?_set_self inside], ?_, ?_⟩
    · intro k member equal
      rw [jobs] at member
      rcases List.mem_append.mp member with old | fresh
      · have bound := orderly.numbered k old
        omega
      · have equal := List.mem_singleton.mp fresh
        subst equal
        exact ⟨same, held.trans given⟩
    · rw [raised]
      rfl
    · intro _
      rw [raised]
      exact opened

/-- A submission that ends has committed exactly if nothing has overtaken it. -/
theorem Tracks.ended {number i token : Nat} {past last : List Event} {p q : Pool}
    {outcome : Outcome} (tracks : Tracks number i token past p) (effect : Effect p q last)
    (ended : .ended number outcome ∈ last) :
    ((∃ result, outcome = .committed result) ↔ ∀ e ∈ past, e.overtakes i = false) ∧
      (∀ result, outcome = .committed result →
        ∃ shown, q.slots[i]? = some shown ∧ shown.result = result) ∧
      (outcome = .superseded → q.slots = p.slots) := by
  cases effect with
  | silent => cases ended
  | tornDown => cases List.mem_singleton.mp ended
  | began => cases List.mem_singleton.mp ended
  | refused =>
    cases List.mem_singleton.mp ended
    exact absurd tracks.given (Nat.lt_irrefl _)
  | @committed j slot result member found accepted slots =>
    cases List.mem_singleton.mp ended
    obtain ⟨place, held⟩ := tracks.held j member rfl
    subst place held
    have inside := (List.getElem?_eq_some_iff.mp found).1
    have clear := (tracks.accepts_iff found).mp accepted
    refine ⟨⟨fun _ => clear, fun _ => ⟨result, rfl⟩⟩, ?_, fun impossible => by cases impossible⟩
    intro shown same
    cases same
    exact ⟨_, by rw [slots, List.getElem?_set_self inside], rfl⟩
  | @overtaken j slot member found stale slots =>
    cases List.mem_singleton.mp ended
    obtain ⟨place, held⟩ := tracks.held j member rfl
    subst place held
    refine ⟨⟨fun ⟨_, impossible⟩ => (by cases impossible), fun clear => ?_⟩,
      fun _ impossible => (by cases impossible), fun _ => slots⟩
    rw [(tracks.accepts_iff found).mpr clear] at stale
    cases stale

/-- Where the engine work is over and the generation has changed, it does not matter which of the
two a submission sees first. -/
theorem select?_comm (p : Pool) {j : Job} {slot : Slot} (found : p.slots[j.slot]? = some slot) :
    p.select? j slot true = p.select? j slot false := by
  simp only [select?, if_true, Bool.false_eq_true, if_false]
  unfold bring? abandon?
  cases j.progress with
  | settled result => rfl
  | waiting stage => simp
  | done result =>
    by_cases current : slot.generation = j.token
    · simp [current]
    · have stale : slot.accepts j.token = false := by simp [Slot.accepts, current]
      simp only [current, if_false, bring, Slot.finish_of_stale stale, set_same found]

/-- In every pool that a run leads to, a submission to a closed slot is superseded at once and
changes no slot.  One to an open slot, after any further run, ends as committed exactly if nothing
has overtaken it since it began, and then its slot shows its result; otherwise it is superseded,
and its end changes no slot.  The order in which a submission looks for its end makes no
difference. -/
theorem submission_outcome {engine : Engine} {session : Session} {slots : List Slot}
    {before : List Move} {history : List Event} {p : Pool} {i : Nat} {slot : Slot}
    (reached : Pool.run? engine { session := session, slots := slots } before = some (history, p))
    (found : p.slots[i]? = some slot) (renderer : Renderer) (text : String) :
    (∃ events q, p.step? engine (.submit i renderer text) = some (events, q) ∧
      (slot.closed = true → events = [.ended p.submitted .superseded] ∧ q.slots = p.slots) ∧
      (slot.closed = false → events = [.began p.submitted i] ∧
        ∀ moves past k m last r outcome, q.run? engine moves = some (past, k) →
          k.step? engine m = some (last, r) → .ended p.submitted outcome ∈ last →
          ((∃ result, outcome = .committed result) ↔ ∀ e ∈ past, e.overtakes i = false) ∧
            (∀ result, outcome = .committed result →
              ∃ shown, r.slots[i]? = some shown ∧ shown.result = result) ∧
            (outcome = .superseded → r.slots = k.slots))) ∧
      ∀ number, p.step? engine (.select number true) = p.step? engine (.select number false) := by
  have leads : Leads engine _ p := ⟨before, history, reached⟩
  have orderly := leads.orderly (orderly_of_no_jobs rfl)
  refine ⟨⟨_, _, by rw [step?, found]; rfl, fun closed => ?_, fun opened => ?_⟩, fun number => ?_⟩
  · exact submit_of_closed p i closed renderer text
  · obtain ⟨events, begun⟩ := submit_tracks orderly found opened renderer text
    refine ⟨events, ?_⟩
    intro moves past k m last r outcome run step ended
    have tracks := run?_induction engine []
      (fun _ _ _ _ effect tracks => tracks.after effect) run begun
    exact tracks.ended (step?_effect engine step) ended
  · simp only [step?]
    cases picked : p.jobWithSlot? number with
    | none => rfl
    | some both => exact select?_comm p (jobWithSlot?_eq_some picked).2.2

/-- The engine draws for a submission that has been overtaken, too. -/
theorem submission_outcome_overtaken :
    ∃ (engine : Engine) (p q k r : Pool),
      Pool.run? engine { slots := [{ id := ⟨"s", by decide⟩ }] }
          [.submit 0 {} "x", .submit 0 {} "graph TD\nB-->A"] =
        some ([.began 0 0, .began 1 0], p) ∧
      p.step? engine (.submit 0 {} "graph TD\nA-->B") = some ([.began 2 0], q) ∧
      q.run? engine [.settle 0, .elapse 200, .work 1, .work 2, .select 1 true, .work 2] =
        some ([.ended 0 .superseded, .ended 1 .superseded], k) ∧
      k.step? engine (.select 2 false) =
        some ([.ended 2 (.committed (.success ⟨⟨"s-1", by decide⟩, "drawn"⟩))], r) ∧
      ∃ shown, r.slots[0]? = some shown ∧
        shown.result = .success ⟨⟨"s-1", by decide⟩, "drawn"⟩ := by
  have run : ∃ (engine : Engine) (p q k r : Pool),
      Pool.run? engine { slots := [{ id := ⟨"s", by decide⟩ }] }
          [.submit 0 {} "x", .submit 0 {} "graph TD\nB-->A"] =
        some ([.began 0 0, .began 1 0], p) ∧
      p.step? engine (.submit 0 {} "graph TD\nA-->B") = some ([.began 2 0], q) ∧
      q.run? engine [.settle 0, .elapse 200, .work 1, .work 2, .select 1 true, .work 2] =
        some ([.ended 0 .superseded, .ended 1 .superseded], k) ∧
      k.step? engine (.select 2 false) =
        some ([.ended 2 (.committed (.success ⟨⟨"s-1", by decide⟩, "drawn"⟩))], r) ∧
      p.submitted = 2 ∧ ∃ slot, p.slots[0]? = some slot ∧ slot.closed = false :=
    ⟨fun _ call => { answer := .ok ⟨call.attempt, "drawn"⟩ },
      _, _, _, _, rfl, rfl, rfl, rfl, rfl, _, rfl, rfl⟩
  obtain ⟨engine, p, q, k, r, reached, begun, during, last, number, slot, found, opened⟩ := run
  obtain ⟨⟨events, next, step, _, ends⟩, _⟩ :=
    submission_outcome reached found {} "graph TD\nA-->B"
  cases step.symm.trans begun
  rw [number] at ends
  have outcome := (ends opened).2 _ _ _ _ _ _ _ during last (List.mem_singleton.mpr rfl)
  exact ⟨engine, p, q, k, r, reached, begun, during, last, outcome.2.1 _ rfl⟩

end Pool

end CatalogueViewer
