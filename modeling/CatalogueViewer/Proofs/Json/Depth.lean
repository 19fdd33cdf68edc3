import CatalogueViewer.Proofs.Json.Followed
import CatalogueViewer.Proofs.Json.Members

/-!
# How deep a text nests

`read` takes texts of a certain depth; here texts of any depth are read.  A text that is read at
some depth is either read alike at every smaller one or is refused there as malformed:
`readWithin_shallower`.  Nothing that is read nests deeper than it was allowed to.
-/

namespace CatalogueViewer.Json

variable {α : Type}

/-- Reads a text whose containers nest at most `n` deep. -/
def readWithin (n : Nat) (text : List Char) : Except TextError Json := do
  let (v, rest) ← value n text
  textEnd rest
  .ok v

/-- The text is that of a value, however deep it nests. -/
def Spells (text : List Char) (v : Json) : Prop := ∃ n, readWithin n text = .ok v

theorem readWithin_eq_ok_iff {n : Nat} {text : List Char} {v : Json} :
    readWithin n text = .ok v ↔ ∃ rest, value n text = .ok (v, rest) ∧ skipGap rest = [] := by
  constructor
  · intro read
    obtain ⟨⟨w, rest⟩, front, read⟩ := bind_eq_ok.mp read
    obtain ⟨_, ended, read⟩ := bind_eq_ok.mp read
    cases read
    refine ⟨rest, front, ?_⟩
    unfold textEnd at ended
    split at ended
    · next nothing => exact List.isEmpty_iff.mp nothing
    · cases ended
  · rintro ⟨rest, front, nothing⟩
    simp [readWithin, front, textEnd, nothing, bind, Except.bind]

theorem readWithin_deeper {n m : Nat} {text : List Char} {v : Json}
    (read : readWithin n text = .ok v) (le : n ≤ m) : readWithin m text = .ok v := by
  rw [readWithin_eq_ok_iff] at read ⊢
  obtain ⟨rest, front, nothing⟩ := read
  have deeper := value_readsOn endsNumeral_nil le front
  rw [List.append_nil, List.append_nil] at deeper
  exact ⟨rest, deeper, nothing⟩

/-! ### With less depth -/

/-- What `f` reads, `g` reads alike or refuses as malformed. -/
def Restricts (f g : Reader α) : Prop :=
  ∀ {s : List Char} {x : α × List Char}, f s = .ok x → g s = .ok x ∨ g s = .error .malformed

theorem items_restricts {f g : Reader α} (restricts : Restricts f g) (fuel : Nat) (first : Bool) :
    Restricts (items f fuel first) (items g fuel first) := by
  intro s x read
  induction fuel generalizing first s x with
  | zero => cases read
  | succ fuel ih =>
    rw [items] at read ⊢
    split at read
    · cases read
    · exact .inl read
    · next after mark =>
      obtain ⟨⟨y, s₁⟩, item, read⟩ := bind_eq_ok.mp read
      obtain ⟨⟨ys, s₂⟩, others, read⟩ := bind_eq_ok.mp read
      cases read
      rcases restricts item with same | refused
      · rcases ih false others with alike | later
        · exact .inl (by simp only [same, alike, bind, Except.bind])
        · exact .inr (by simp only [same, later, bind, Except.bind])
      · exact .inr (by simp only [refused, bind, Except.bind])

theorem members_restricts {κ : Type} (name : Reader κ) {f g : Reader α}
    (restricts : Restricts f g) (fuel : Nat) (first : Bool) :
    Restricts (members name f fuel first) (members name g fuel first) := by
  intro s x read
  induction fuel generalizing first s x with
  | zero => cases read
  | succ fuel ih =>
    rw [members] at read ⊢
    split at read
    · cases read
    · exact .inl read
    · next after mark =>
      obtain ⟨⟨k, s₁⟩, key, read⟩ := bind_eq_ok.mp read
      obtain ⟨⟨_, s₂⟩, between, read⟩ := bind_eq_ok.mp read
      obtain ⟨⟨y, s₃⟩, item, read⟩ := bind_eq_ok.mp read
      obtain ⟨⟨ys, s₄⟩, others, read⟩ := bind_eq_ok.mp read
      cases read
      rcases restricts item with same | refused
      · rcases ih false others with alike | later
        · exact .inl (by simp only [key, between, same, alike, bind, Except.bind])
        · exact .inr (by simp only [key, between, same, later, bind, Except.bind])
      · exact .inr (by simp only [key, between, refused, bind, Except.bind])

/-- With less depth a value is read alike, or there are too many containers. -/
theorem value_restricts {n m : Nat} (le : m ≤ n) : Restricts (value n) (value m) := by
  induction n generalizing m with
  | zero =>
    obtain rfl := Nat.le_zero.mp le
    exact .inl
  | succ n ih =>
    intro s x read
    rw [value] at read
    split at read
    · next t front =>
      cases m with
      | zero =>
        right
        rw [value, scalar, front]
        rfl
      | succ m =>
        obtain ⟨⟨xs, after⟩, inside, read⟩ := bind_eq_ok.mp read
        have restricts : Restricts (value n) (value m) := ih (Nat.le_of_succ_le_succ le)
        rw [value, front]
        rcases items_restricts restricts _ true inside with same | refused
        · exact .inl (by simpa only [same, bind, Except.bind] using read)
        · exact .inr (by simp only [refused, bind, Except.bind])
    · next t front =>
      cases m with
      | zero =>
        right
        rw [value, scalar, front]
        rfl
      | succ m =>
        obtain ⟨⟨xs, after⟩, inside, read⟩ := bind_eq_ok.mp read
        have restricts : Restricts (value n) (value m) := ih (Nat.le_of_succ_le_succ le)
        rw [value, front]
        rcases members_restricts string restricts _ true inside with same | refused
        · exact .inl (by simpa only [same, bind, Except.bind] using read)
        · exact .inr (by simp only [refused, bind, Except.bind])
    · obtain ⟨v, rest⟩ := x
      exact .inl (value_of_scalar read m)

theorem readWithin_shallower {n m : Nat} {text : List Char} {v : Json}
    (read : readWithin n text = .ok v) (le : m ≤ n) :
    readWithin m text = .ok v ∨ readWithin m text = .error .malformed := by
  obtain ⟨rest, front, nothing⟩ := readWithin_eq_ok_iff.mp read
  rcases value_restricts le front with same | refused
  · exact .inl (readWithin_eq_ok_iff.mpr ⟨rest, same, nothing⟩)
  · exact .inr (by simp only [readWithin, refused, bind, Except.bind])

/-- A text that nests too deep is malformed, and nothing else is wrong with the text of a value. -/
theorem Spells.read {text : List Char} {v : Json} (spells : Spells text v) :
    Json.read text = .ok v ∨ Json.read text = .error .malformed := by
  obtain ⟨n, read⟩ := spells
  rcases Nat.le_total n maxNesting with shallow | deep
  · exact .inl (readWithin_deeper read shallow)
  · exact readWithin_shallower read deep

/-! ### What is read within a depth -/

theorem forall_mem_of_items {f : Reader α} {P : α → Prop}
    (each : ∀ {s rest : List Char} {x : α}, f s = .ok (x, rest) → P x) {fuel : Nat} {first : Bool}
    {s rest : List Char} {xs : List α} (read : items f fuel first s = .ok (xs, rest)) :
    ∀ x ∈ xs, P x := by
  induction fuel generalizing first s xs with
  | zero => cases read
  | succ fuel ih =>
    rw [items] at read
    split at read
    · cases read
    · cases read
      exact List.forall_mem_nil _
    · obtain ⟨⟨y, s₁⟩, item, read⟩ := bind_eq_ok.mp read
      obtain ⟨⟨ys, s₂⟩, others, read⟩ := bind_eq_ok.mp read
      cases read
      exact List.forall_mem_cons.mpr ⟨each item, ih others⟩

theorem forall_mem_of_members {κ : Type} {name : Reader κ} {f : Reader α} {P : α → Prop}
    (each : ∀ {s rest : List Char} {x : α}, f s = .ok (x, rest) → P x) {fuel : Nat} {first : Bool}
    {s rest : List Char} {xs : List (κ × α)}
    (read : members name f fuel first s = .ok (xs, rest)) : ∀ m ∈ xs, P m.2 := by
  induction fuel generalizing first s xs with
  | zero => cases read
  | succ fuel ih =>
    rw [members] at read
    split at read
    · cases read
    · cases read
      exact List.forall_mem_nil _
    · obtain ⟨⟨k, s₁⟩, key, read⟩ := bind_eq_ok.mp read
      obtain ⟨⟨_, s₂⟩, between, read⟩ := bind_eq_ok.mp read
      obtain ⟨⟨y, s₃⟩, item, read⟩ := bind_eq_ok.mp read
      obtain ⟨⟨ys, s₄⟩, others, read⟩ := bind_eq_ok.mp read
      cases read
      exact List.forall_mem_cons.mpr ⟨each item, ih others⟩

theorem letters_eq_ok {x y : α} {word s rest : List Char}
    (read : letters x word s = .ok (y, rest)) : y = x := by
  induction word generalizing s with
  | nil =>
    cases read
    rfl
  | cons c word ih =>
    cases s with
    | nil => cases read
    | cons d s =>
      rw [letters] at read
      split at read
      · exact ih read
      · cases read

theorem nesting_number {negative : Bool} {s rest : List Char} {v : Json}
    (read : number negative s = .ok (v, rest)) : v.nesting = 0 := by
  obtain ⟨⟨n, after⟩, digits, read⟩ := bind_eq_ok.mp read
  dsimp only at read
  split at read
  · next value =>
    cases read
    unfold Numeral.value? at value
    split at value
    · obtain ⟨x, -, rfl⟩ := Option.map_eq_some_iff.mp value
      rfl
    · split at value
      · cases value
        rfl
      · split at value
        · cases value
          rfl
        · obtain ⟨x, -, rfl⟩ := Option.map_eq_some_iff.mp value
          rfl
  · cases read

theorem nesting_scalar {s rest : List Char} {v : Json} (read : scalar s = .ok (v, rest)) :
    v.nesting = 0 := by
  unfold scalar at read
  split at read
  · cases read
  · rw [letters_eq_ok read]
    rfl
  · rw [letters_eq_ok read]
    rfl
  · rw [letters_eq_ok read]
    rfl
  · obtain ⟨⟨text, after⟩, body, read⟩ := bind_eq_ok.mp read
    cases read
    rfl
  · exact nesting_number read
  · split at read
    · exact nesting_number read
    · cases read

theorem itemsNesting_le {items : List Json} {n : Nat} (each : ∀ item ∈ items, item.nesting ≤ n) :
    itemsNesting items ≤ n := by
  induction items with
  | nil => exact Nat.zero_le n
  | cons item rest ih =>
    obtain ⟨first, others⟩ := List.forall_mem_cons.mp each
    exact Nat.max_le.mpr ⟨first, ih others⟩

theorem nesting_le_of_value {n : Nat} {s rest : List Char} {v : Json}
    (read : value n s = .ok (v, rest)) : v.nesting ≤ n := by
  induction n generalizing s rest v with
  | zero => exact Nat.le_of_eq (nesting_scalar read)
  | succ n ih =>
    rw [value] at read
    split at read
    · obtain ⟨⟨xs, after⟩, inside, read⟩ := bind_eq_ok.mp read
      cases read
      exact Nat.succ_le_succ (itemsNesting_le (forall_mem_of_items ih inside))
    · obtain ⟨⟨xs, after⟩, inside, read⟩ := bind_eq_ok.mp read
      cases read
      have each := forall_mem_of_members (P := fun v => v.nesting ≤ n) ih inside
      rw [ofMembers, nesting, membersNesting_eq]
      refine Nat.succ_le_succ (itemsNesting_le ?_)
      exact List.forall_mem_map.mpr fun m member => each m (mem_of_mem_sorted member)
    · rw [nesting_scalar read]
      exact Nat.zero_le _

theorem nesting_le_of_readWithin {n : Nat} {text : List Char} {v : Json}
    (read : readWithin n text = .ok v) : v.nesting ≤ n := by
  obtain ⟨rest, front, -⟩ := readWithin_eq_ok_iff.mp read
  exact nesting_le_of_value front

end CatalogueViewer.Json
