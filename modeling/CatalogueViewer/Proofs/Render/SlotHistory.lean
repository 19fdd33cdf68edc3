import CatalogueViewer.Render.Slot

/-!
# Histories of a slot

Any number of submissions share a slot with those who tear it down.  A submission begins, and
later either brings a result or sees that it has been overtaken; every move is atomic, and nothing
else orders them.  A history is a slot with a record of the moves so far.  `history_safe` says what
holds after every run of moves.
-/

namespace CatalogueViewer

/-- A slot with what has happened to it. -/
structure SlotHistory where
  slot : Slot
  /-- The tokens that were handed out, the latest first. -/
  issued : List Nat := []
  /-- The tokens of the submissions that have not ended. -/
  underway : List Nat := []
  /-- The results that were committed with their tokens, the latest first. -/
  commits : List (Nat × Result) := []
  teardowns : Nat := 0

namespace SlotHistory

inductive Move where
  | submit
  /-- The submission with this token brings its result. -/
  | finish (token : Nat) (result : Result)
  /-- The submission with this token ends because the generation has changed. -/
  | abandon (token : Nat)
  | teardown

def new (id : SlotId) : SlotHistory := { slot := { id } }

def submit (h : SlotHistory) : SlotHistory :=
  match h.slot.begin? with
  | none => h
  | some (token, slot) =>
    { h with slot := slot, issued := token :: h.issued, underway := token :: h.underway }

def finish (h : SlotHistory) (token : Nat) (result : Result) : SlotHistory :=
  let h := { h with underway := h.underway.erase token }
  match h.slot.finish token result with
  | (.committed result, slot) => { h with slot := slot, commits := (token, result) :: h.commits }
  | (.superseded, slot) => { h with slot := slot }

/-- The history after a move, if the move is possible. -/
def step? (h : SlotHistory) : Move → Option SlotHistory
  | .submit => some h.submit
  | .finish token result => if token ∈ h.underway then some (h.finish token result) else none
  | .abandon token =>
    if token ∈ h.underway ∧ h.slot.generation ≠ token then
      some { h with underway := h.underway.erase token }
    else none
  | .teardown => some { h with slot := h.slot.teardown, teardowns := h.teardowns + 1 }

def run? (h : SlotHistory) : List Move → Option SlotHistory
  | [] => some h
  | m :: rest => (h.step? m).bind fun h => h.run? rest

/-! ### What one move does -/

/-- Everything that a move can change. -/
inductive Change (h : SlotHistory) : SlotHistory → Prop where
  | refused : Change h h
  | began (opened : h.slot.closed = false) :
      Change h { h with
        slot := { h.slot with
          generation := h.slot.generation + 1
          result := .loading
          published := h.slot.published + 1 }
        issued := (h.slot.generation + 1) :: h.issued
        underway := (h.slot.generation + 1) :: h.underway }
  | committed {token : Nat} {result : Result} (member : token ∈ h.underway)
      (opened : h.slot.closed = false) (current : h.slot.generation = token) :
      Change h { h with
        slot := { h.slot with result := result, published := h.slot.published + 1 }
        underway := h.underway.erase token
        commits := (token, result) :: h.commits }
  | superseded {token : Nat} (member : token ∈ h.underway) :
      Change h { h with underway := h.underway.erase token }
  | tornDown : Change h { h with slot := h.slot.teardown, teardowns := h.teardowns + 1 }

theorem submit_change (h : SlotHistory) : Change h h.submit := by
  unfold submit
  split
  · exact .refused
  · next token slot begun =>
    obtain ⟨opened, rfl, rfl⟩ := Slot.begin?_eq_some_iff.mp begun
    exact .began opened

theorem finish_change {h : SlotHistory} {token : Nat} (member : token ∈ h.underway)
    (result : Result) : Change h (h.finish token result) := by
  unfold finish
  cases accepted : h.slot.accepts token with
  | true =>
    obtain ⟨opened, current⟩ := Slot.accepts_iff.mp accepted
    simp only [Slot.finish_of_accepts accepted]
    exact .committed member opened current
  | false =>
    simp only [Slot.finish_of_stale accepted]
    exact .superseded member

theorem step?_change {h k : SlotHistory} {m : Move} (step : h.step? m = some k) : Change h k := by
  cases m with
  | submit =>
    obtain rfl := Option.some.inj step
    exact submit_change h
  | finish token result =>
    obtain ⟨member, same⟩ := Option.ite_none_right_eq_some.mp step
    obtain rfl := Option.some.inj same
    exact finish_change member result
  | abandon token =>
    obtain ⟨⟨member, _⟩, same⟩ := Option.ite_none_right_eq_some.mp step
    obtain rfl := Option.some.inj same
    exact .superseded member
  | teardown =>
    obtain rfl := Option.some.inj step
    exact .tornDown

/-- What every move preserves, a run preserves. -/
theorem run?_induction {P : SlotHistory → Prop} {moves : List Move} {h k : SlotHistory}
    (preserved : ∀ h k, Change h k → P h → P k) (run : h.run? moves = some k) (start : P h) :
    P k := by
  induction moves generalizing h with
  | nil =>
    obtain rfl := Option.some.inj run
    exact start
  | cons m rest ih =>
    obtain ⟨next, step, run⟩ := Option.bind_eq_some_iff.mp run
    exact ih run (preserved h next (step?_change step) start)

/-! ### What holds after every run -/

/-- The record agrees with the slot. -/
structure Sound (h : SlotHistory) : Prop where
  generation : h.slot.generation = h.issued.length + h.teardowns
  /-- No token is from the future. -/
  bounded : ∀ token ∈ h.issued, token ≤ h.slot.generation
  distinct : h.issued.Nodup
  /-- Submissions under way hold tokens of their own, and have committed nothing. -/
  held : h.underway.Nodup ∧ h.underway ⊆ h.issued
  uncommitted : ∀ token ∈ h.underway, token ∉ h.commits.map Prod.fst
  committed : h.commits.map Prod.fst ⊆ h.issued
  once : (h.commits.map Prod.fst).Nodup
  /-- An open slot shows the commit of its generation, or waits for it. -/
  shown : h.slot.closed = false →
    h.slot.result = .loading ∨ (h.slot.generation, h.slot.result) ∈ h.commits

theorem sound_new (id : SlotId) : Sound (new id) where
  generation := rfl
  bounded := by simp [new]
  distinct := by simp [new]
  held := by simp [new]
  uncommitted := by simp [new]
  committed := by simp [new]
  once := by simp [new]
  shown := fun _ => Or.inl rfl

/-- A submission that begins takes a token above all others. -/
theorem Sound.fresh {h : SlotHistory} (sound : Sound h) : h.slot.generation + 1 ∉ h.issued := by
  intro member
  have bound := sound.bounded _ member
  omega

theorem Change.sound {h k : SlotHistory} (change : Change h k) (sound : Sound h) : Sound k := by
  cases change with
  | refused => exact sound
  | began opened =>
    have fresh := sound.fresh
    refine ⟨?_, ?_, ?_, ⟨?_, ?_⟩, ?_, ?_, sound.once, fun _ => Or.inl rfl⟩
    · have count := sound.generation
      simp only [List.length_cons]
      omega
    · intro token member
      rcases List.mem_cons.mp member with same | old
      · exact Nat.le_of_eq same
      · exact Nat.le_succ_of_le (sound.bounded token old)
    · exact List.nodup_cons.mpr ⟨fresh, sound.distinct⟩
    · exact List.nodup_cons.mpr ⟨fun member => fresh (sound.held.2 member), sound.held.1⟩
    · exact List.cons_subset_cons _ sound.held.2
    · intro token member
      rcases List.mem_cons.mp member with same | old
      · subst same
        exact fun member => fresh (sound.committed member)
      · exact sound.uncommitted token old
    · exact fun token member => List.mem_cons_of_mem _ (sound.committed member)
  | @committed token result member opened current =>
    refine ⟨sound.generation, sound.bounded, sound.distinct, ⟨?_, ?_⟩, ?_, ?_, ?_, ?_⟩
    · exact sound.held.1.erase token
    · exact fun other member => sound.held.2 (List.mem_of_mem_erase member)
    · intro other member
      obtain ⟨different, old⟩ := (sound.held.1.mem_erase_iff).mp member
      simp only [List.map_cons, List.mem_cons, not_or]
      exact ⟨different, sound.uncommitted other old⟩
    · exact List.cons_subset.mpr ⟨sound.held.2 member, sound.committed⟩
    · exact List.nodup_cons.mpr ⟨sound.uncommitted token member, sound.once⟩
    · intro _
      subst current
      exact Or.inr List.mem_cons_self
  | @superseded token member =>
    have kept : h.underway.erase token ⊆ h.underway := fun _ member => List.mem_of_mem_erase member
    exact ⟨sound.generation, sound.bounded, sound.distinct,
      ⟨sound.held.1.erase token, fun other member => sound.held.2 (kept member)⟩,
      fun other member => sound.uncommitted other (kept member), sound.committed, sound.once,
      sound.shown⟩
  | tornDown =>
    refine ⟨?_, ?_, sound.distinct, sound.held, sound.uncommitted, sound.committed, sound.once, ?_⟩
    · have count := sound.generation
      simp only [Slot.teardown]
      omega
    · exact fun token member => Nat.le_succ_of_le (sound.bounded token member)
    · intro opened
      simp [Slot.teardown] at opened

theorem Change.generation_le {h k : SlotHistory} (change : Change h k) :
    h.slot.generation ≤ k.slot.generation := by
  cases change <;> simp [Slot.teardown]

/-- A closed slot is closed for good and shows what it showed. -/
theorem Change.closed {h k : SlotHistory} (change : Change h k) (closed : h.slot.closed = true) :
    k.slot.closed = true ∧ k.slot.result = h.slot.result := by
  cases change with
  | refused => exact ⟨closed, rfl⟩
  | began opened => rw [closed] at opened; cases opened
  | committed _ opened _ => rw [closed] at opened; cases opened
  | superseded _ => exact ⟨closed, rfl⟩
  | tornDown => exact ⟨rfl, rfl⟩

/-- After any run of moves on a new slot, and however it goes on: the generation counts the
submissions that began and the teardowns, and never falls; tokens are distinct and none commits
twice; an open slot shows what the token of its generation has committed, or is loading; a closed
one stays closed and shows what it showed. -/
theorem history_safe {id : SlotId} {moves more : List Move} {h k : SlotHistory}
    (reached : (new id).run? moves = some h) (later : h.run? more = some k) :
    h.slot.generation = h.issued.length + h.teardowns ∧
      h.slot.generation ≤ k.slot.generation ∧
      h.issued.Nodup ∧
      (h.commits.map Prod.fst).Nodup ∧
      h.commits.map Prod.fst ⊆ h.issued ∧
      (h.slot.closed = false →
        h.slot.result = .loading ∨ (h.slot.generation, h.slot.result) ∈ h.commits) ∧
      (h.slot.closed = true → k.slot.closed = true ∧ k.slot.result = h.slot.result) := by
  have sound : Sound h := run?_induction (fun _ _ change => change.sound) reached (sound_new id)
  have rises : h.slot.generation ≤ k.slot.generation :=
    run?_induction (P := fun x => h.slot.generation ≤ x.slot.generation)
      (fun _ _ change bound => Nat.le_trans bound change.generation_le) later (Nat.le_refl _)
  refine ⟨sound.generation, rises, sound.distinct, sound.once, sound.committed, sound.shown,
    fun closed => ?_⟩
  refine run?_induction (P := fun x => x.slot.closed = true ∧ x.slot.result = h.slot.result)
    ?_ later ⟨closed, rfl⟩
  intro x y change before
  obtain ⟨stays, same⟩ := change.closed before.1
  exact ⟨stays, same.trans before.2⟩

/-- A second submission overtakes the first, and a teardown the third. -/
theorem history_safe_overtaken :
    ∃ h k,
      (new ⟨"s", by decide⟩).run?
          [.submit, .submit, .finish 1 .invalid, .finish 2 (.error "e"), .submit] = some h ∧
        h.run? [.teardown, .finish 3 .invalid, .submit] = some k ∧
        h.issued = [3, 2, 1] ∧ h.commits = [(2, .error "e")] ∧
        h.slot.generation = h.issued.length + h.teardowns ∧
        h.slot.generation ≤ k.slot.generation ∧ h.issued.Nodup ∧
        (h.slot.closed = false →
          h.slot.result = .loading ∨ (h.slot.generation, h.slot.result) ∈ h.commits) := by
  have run : ∃ h k, (new ⟨"s", by decide⟩).run?
      [.submit, .submit, .finish 1 .invalid, .finish 2 (.error "e"), .submit] = some h ∧
      h.run? [.teardown, .finish 3 .invalid, .submit] = some k ∧
      h.issued = [3, 2, 1] ∧ h.commits = [(2, .error "e")] := ⟨_, _, rfl, rfl, rfl, rfl⟩
  obtain ⟨h, k, reached, later, issued, commits⟩ := run
  have safe := history_safe reached later
  exact ⟨h, k, reached, later, issued, commits, safe.1, safe.2.1, safe.2.2.1, safe.2.2.2.2.2.1⟩

end SlotHistory

end CatalogueViewer
