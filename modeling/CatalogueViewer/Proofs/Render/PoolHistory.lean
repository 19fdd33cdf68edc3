import CatalogueViewer.Proofs.Render.Effects
import CatalogueViewer.Proofs.Render.SlotHistory

/-!
# The histories in a pool

Whatever happens to a pool, each of its slots has a history of its own, made of the moves that
concern it.
-/

namespace CatalogueViewer

namespace SlotHistory

theorem run?_append {h k l : SlotHistory} {first second : List Move} (run : h.run? first = some k)
    (onward : k.run? second = some l) : h.run? (first ++ second) = some l := by
  induction first generalizing h with
  | nil =>
    cases run
    exact onward
  | cons m rest ih =>
    obtain ⟨next, step, run⟩ := Option.bind_eq_some_iff.mp run
    rw [List.cons_append, run?, step]
    exact ih run

theorem run?_single {h k : SlotHistory} {m : Move} (step : h.step? m = some k) :
    h.run? [m] = some k := by
  rw [run?, step]
  rfl

end SlotHistory

namespace Pool

open SlotHistory (Change Sound)

/-- The history shows slot `i` of the pool, and its submissions are under way in it. -/
structure Follows (h : SlotHistory) (i : Nat) (p : Pool) : Prop where
  sound : Sound h
  shown : p.slots[i]? = some h.slot
  held : ∀ j ∈ p.jobs, j.slot = i → j.token ∈ h.underway
  /-- No two submissions hold one token. -/
  own : ∀ j ∈ p.jobs, ∀ k ∈ p.jobs, j.slot = i → k.slot = i → j.token = k.token →
    j.number = k.number

variable {h : SlotHistory} {i : Nat} {p q : Pool} {events : List Event}

/-- Every submission of `q` to the slot is one of `p`, with the same token. -/
def Known (i : Nat) (p q : Pool) : Prop :=
  ∀ j ∈ q.jobs, j.slot = i → ∃ k ∈ p.jobs, k.number = j.number ∧ k.slot = i ∧ k.token = j.token

theorem Inherits.known_at (inherits : Inherits p q) : Known i p q := by
  intro j member place
  obtain ⟨k, old, number, slot, token⟩ := inherits.known j member
  exact ⟨k, old, number, slot.trans place, token⟩

theorem Follows.known {k : SlotHistory} (follows : Follows h i p) (known : Known i p q)
    (sound : Sound k) (underway : k.underway = h.underway)
    (shown : q.slots[i]? = some k.slot) : Follows k i q where
  sound := sound
  shown := shown
  held := by
    intro j member place
    obtain ⟨old, inside, _, slot, token⟩ := known j member place
    rw [← token, underway]
    exact follows.held old inside slot
  own := by
    intro j member k other place there same
    obtain ⟨old, inside, number, slot, token⟩ := known j member place
    obtain ⟨old', inside', number', slot', token'⟩ := known k other there
    rw [← number, ← number']
    exact follows.own old inside old' inside' slot slot' (token.trans (same.trans token'.symm))

/-- What happens to another slot is not in the history. -/
theorem Follows.elsewhere {n : Nat} {slot : Slot} (follows : Follows h i p) (known : Known i p q)
    (slots : q.slots = p.slots.set n slot) (other : n ≠ i) : Follows h i q :=
  follows.known known follows.sound rfl
    (by rw [slots, List.getElem?_set_ne other]; exact follows.shown)

theorem Follows.tornDown {slot : Slot} (follows : Follows h i p) (known : Known i p q)
    (found : p.slots[i]? = some slot) (slots : q.slots = p.slots.set i slot.teardown) :
    ∃ moves k, h.run? moves = some k ∧ Follows k i q := by
  have inside := (List.getElem?_eq_some_iff.mp found).1
  have equal : slot = h.slot := Option.some.inj (found.symm.trans follows.shown)
  subst equal
  refine ⟨[.teardown], _, SlotHistory.run?_single rfl, ?_⟩
  exact follows.known known (SlotHistory.Change.tornDown.sound follows.sound) rfl
    (by rw [slots, List.getElem?_set_self inside])

theorem Follows.began {slot begun : Slot} {j : Job} (follows : Follows h i p)
    (found : p.slots[i]? = some slot) (accepted : slot.begin? = some (j.token, begun))
    (slots : q.slots = p.slots.set i begun) (jobs : q.jobs = p.jobs ++ [j]) :
    ∃ moves k, h.run? moves = some k ∧ Follows k i q := by
  have inside := (List.getElem?_eq_some_iff.mp found).1
  have equal : slot = h.slot := Option.some.inj (found.symm.trans follows.shown)
  subst equal
  have submitted : h.submit = { h with
      slot := begun
      issued := j.token :: h.issued
      underway := j.token :: h.underway } := by
    unfold SlotHistory.submit
    rw [accepted]
  have sound := (SlotHistory.submit_change h).sound follows.sound
  rw [submitted] at sound
  have fresh : j.token ∉ h.underway := (List.nodup_cons.mp sound.held.1).1
  have older : ∀ k ∈ p.jobs, k.slot = i → k.token ≠ j.token := by
    intro k member there same
    rw [← same] at fresh
    exact fresh (follows.held k member there)
  refine ⟨[.submit], _, SlotHistory.run?_single (congrArg some submitted), sound, ?_, ?_, ?_⟩
  · rw [slots, List.getElem?_set_self inside]
  · intro k member there
    rw [jobs] at member
    rcases List.mem_append.mp member with old | new
    · exact List.mem_cons_of_mem _ (follows.held k old there)
    · rw [List.mem_singleton.mp new]
      exact List.mem_cons_self
  · intro k member l other there also same
    rw [jobs] at member other
    rcases List.mem_append.mp member with old | new
    · rcases List.mem_append.mp other with old' | new'
      · exact follows.own k old l old' there also same
      · rw [List.mem_singleton.mp new'] at same
        exact absurd same (older k old there)
    · rw [List.mem_singleton.mp new] at same ⊢
      rcases List.mem_append.mp other with old' | new'
      · exact absurd same.symm (older l old' also)
      · rw [List.mem_singleton.mp new']

theorem Follows.committed {slot : Slot} {j : Job} {result : Result} (follows : Follows h i p)
    (member : j ∈ p.jobs) (found : p.slots[i]? = some slot)
    (accepted : slot.accepts j.token = true) (place : j.slot = i)
    (slots : q.slots =
      p.slots.set i { slot with result := result, published := slot.published + 1 })
    (jobs : q.jobs = p.jobs.filter fun k => k.number != j.number) :
    ∃ moves k, h.run? moves = some k ∧ Follows k i q := by
  have inside := (List.getElem?_eq_some_iff.mp found).1
  have equal : slot = h.slot := Option.some.inj (found.symm.trans follows.shown)
  subst equal
  have held := follows.held j member place
  have finished : h.finish j.token result = { h with
      slot := { h.slot with result := result, published := h.slot.published + 1 }
      underway := h.underway.erase j.token
      commits := (j.token, result) :: h.commits } := by
    unfold SlotHistory.finish
    simp only [Slot.finish_of_accepts accepted]
  have sound := (SlotHistory.finish_change held result).sound follows.sound
  rw [finished] at sound
  have step : h.step? (.finish j.token result) = some (h.finish j.token result) := if_pos held
  rw [finished] at step
  refine ⟨[.finish j.token result], _, SlotHistory.run?_single step, sound, ?_, ?_, ?_⟩
  · rw [slots, List.getElem?_set_self inside]
  · intro k remains there
    rw [jobs] at remains
    obtain ⟨old, other⟩ := List.mem_filter.mp remains
    -- The token is no longer under way, but `k` holds another one.
    apply follows.sound.held.1.mem_erase_iff.mpr
    refine ⟨fun same => ?_, follows.held k old there⟩
    have number := follows.own k old j member there place same
    simp [number] at other
  · intro k remains l also there
    rw [jobs] at remains also
    exact follows.own k (List.mem_filter.mp remains).1 l (List.mem_filter.mp also).1 there

theorem Effect.follows (effect : Effect p q events) (follows : Follows h i p) :
    ∃ moves k, h.run? moves = some k ∧ Follows k i q := by
  have unchanged (inherits : Inherits p q) (slots : q.slots = p.slots) :
      ∃ moves k, h.run? moves = some k ∧ Follows k i q := by
    have shown : q.slots[i]? = some h.slot := by rw [slots]; exact follows.shown
    exact ⟨[], h, rfl, follows.known inherits.known_at follows.sound rfl shown⟩
  cases effect with
  | silent slots _ inherits => exact unchanged inherits slots
  | refused _ _ slots _ inherits => exact unchanged inherits slots
  | overtaken _ _ _ slots _ jobs =>
    exact unchanged (inherits_of_sublist (by rw [jobs]; exact List.filter_sublist)) slots
  | @tornDown n slot found slots _ inherits =>
    by_cases same : n = i
    · subst same
      exact follows.tornDown inherits.known_at found slots
    · exact ⟨[], h, rfl, follows.elsewhere inherits.known_at slots same⟩
  | @began n token slot begun j found accepted slots _ jobs _ place held =>
    subst place held
    by_cases same : j.slot = i
    · subst same
      exact follows.began found accepted slots jobs
    · have known : Known i p q := by
        intro k member there
        rw [jobs] at member
        rcases List.mem_append.mp member with old | new
        · exact ⟨k, old, rfl, there, rfl⟩
        · rw [List.mem_singleton.mp new] at there
          exact absurd there same
      exact ⟨[], h, rfl, follows.elsewhere known slots same⟩
  | @committed j slot result member found accepted slots _ jobs =>
    by_cases same : j.slot = i
    · subst same
      exact follows.committed member found accepted rfl slots jobs
    · have inherits : Inherits p q :=
        inherits_of_sublist (by rw [jobs]; exact List.filter_sublist)
      exact ⟨[], h, rfl, follows.elsewhere inherits.known_at slots same⟩

/-- Each slot of a pool is that of a history, in which its submissions are under way. -/
theorem Leads.exists_follows {engine : Engine} {id : SlotId} (leads : Leads engine p q)
    (idle : p.jobs = []) (new : p.slots[i]? = some { id := id }) :
    ∃ moves h, (SlotHistory.new id).run? moves = some h ∧ Follows h i q := by
  have start : Follows (SlotHistory.new id) i p := by
    refine ⟨SlotHistory.sound_new id, new, ?_, ?_⟩
    all_goals
      rw [idle]
      simp
  refine leads.induction
    (P := fun q => ∃ moves h, (SlotHistory.new id).run? moves = some h ∧ Follows h i q)
    ?_ ⟨[], _, rfl, start⟩
  rintro p q events effect ⟨moves, h, reached, follows⟩
  obtain ⟨more, k, onward, follows⟩ := effect.follows follows
  exact ⟨moves ++ more, k, SlotHistory.run?_append reached onward, follows⟩

theorem Leads.exists_history {engine : Engine} {id : SlotId} (leads : Leads engine p q)
    (idle : p.jobs = []) (new : p.slots[i]? = some { id := id }) :
    ∃ moves h, (SlotHistory.new id).run? moves = some h ∧ q.slots[i]? = some h.slot := by
  obtain ⟨moves, h, reached, follows⟩ := leads.exists_follows idle new
  exact ⟨moves, h, reached, follows.shown⟩

end Pool

end CatalogueViewer
