import CatalogueViewer.Text.Pattern

/-!
# Matches of patterns

Where the matches of a pattern end, and which characters no match passes over.
-/

namespace CatalogueViewer.Text.Pattern

theorem mem_ends_seq {p q : Pattern} {s e : Spot} :
    e ∈ (seq p q).ends s ↔ ∃ m ∈ p.ends s, e ∈ q.ends m := List.mem_flatMap

theorem mem_ends_one {p : Char → Bool} {before : Option Char} {c : Char} {s : List Char} {e : Spot} :
    e ∈ (one p).ends ⟨before, c :: s⟩ ↔ p c = true ∧ e = ⟨some c, s⟩ := by
  simp [ends]

theorem mem_ends_wordEdge {s e : Spot} :
    e ∈ wordEdge.ends s ↔ s.isWordEdge = true ∧ e = s := by
  simp [ends]

theorem mem_ends_lineStart {s e : Spot} :
    e ∈ lineStart.ends s ↔ s.isLineStart = true ∧ e = s := by
  simp [ends]

theorem matchesAt_iff {p : Pattern} {s : Spot} : p.matchesAt s = true ↔ ∃ e, e ∈ p.ends s := by
  rw [matchesAt, Bool.not_eq_true', List.isEmpty_eq_false_iff_exists_mem]

theorem mem_ends_all_append (ps qs : List Pattern) (s e : Spot) :
    e ∈ (Pattern.all (ps ++ qs)).ends s ↔
      ∃ m ∈ (Pattern.all ps).ends s, e ∈ (Pattern.all qs).ends m := by
  induction ps generalizing s with
  | nil =>
    constructor
    · exact fun reached => ⟨s, List.mem_singleton_self s, reached⟩
    · rintro ⟨m, here, reached⟩
      rwa [List.mem_singleton.mp here] at reached
  | cons p ps ih =>
    constructor
    · intro reached
      obtain ⟨m, first, later⟩ := mem_ends_seq.mp reached
      obtain ⟨n, middle, last⟩ := (ih m).mp later
      exact ⟨n, mem_ends_seq.mpr ⟨m, first, middle⟩, last⟩
    · rintro ⟨n, reached, last⟩
      obtain ⟨m, first, middle⟩ := mem_ends_seq.mp reached
      exact mem_ends_seq.mpr ⟨m, first, (ih m).mpr ⟨n, middle, last⟩⟩

/-- None of the marks stands between two places of a text. -/
def Clear (marks : List Char) (s e : Spot) : Prop :=
  ∃ passed, s.after = passed ++ e.after ∧ ∀ c ∈ passed, c ∉ marks

theorem Clear.refl (marks : List Char) (s : Spot) : Clear marks s s :=
  ⟨[], rfl, fun _ member => absurd member List.not_mem_nil⟩

theorem Clear.trans {marks : List Char} {s m e : Spot} (first : Clear marks s m)
    (second : Clear marks m e) : Clear marks s e := by
  obtain ⟨u, before, freeFirst⟩ := first
  obtain ⟨v, after, freeSecond⟩ := second
  refine ⟨u ++ v, by rw [before, after, List.append_assoc], fun c member => ?_⟩
  rcases List.mem_append.mp member with inFirst | inSecond
  · exact freeFirst c inFirst
  · exact freeSecond c inSecond

theorem Clear.step {marks : List Char} {c : Char} (other : c ∉ marks) (before : Option Char)
    (rest : List Char) : Clear marks ⟨before, c :: rest⟩ ⟨some c, rest⟩ :=
  ⟨[c], rfl, fun _ member => by rwa [List.mem_singleton.mp member]⟩

/-- No match passes over one of the marks. -/
def avoids (marks : List Char) : Pattern → Bool
  | one p | many p => marks.all (!p ·)
  | seq first second | alt first second => first.avoids marks && second.avoids marks
  | empty | wordEdge | lineStart | textEnd => true

theorem notMem_of_avoids {marks : List Char} {p : Char → Bool}
    (avoiding : marks.all (!p ·) = true) {c : Char} (passes : p c = true) : c ∉ marks := by
  intro member
  have never := List.all_eq_true.mp avoiding c member
  rw [passes] at never
  cases never

theorem clear_of_mem_passing {marks : List Char} {p : Char → Bool}
    (avoiding : marks.all (!p ·) = true) {before : Option Char} {text : List Char} {e : Spot}
    (reached : e ∈ Spot.passing p before text) : Clear marks ⟨before, text⟩ e := by
  induction text generalizing before with
  | nil =>
    rw [List.mem_singleton.mp reached]
    exact Clear.refl marks _
  | cons c text ih =>
    rw [Spot.passing] at reached
    rcases List.mem_cons.mp reached with stops | further
    · rw [stops]
      exact Clear.refl marks _
    · split at further
      · next passes => exact (Clear.step (notMem_of_avoids avoiding passes) _ _).trans (ih further)
      · cases further

theorem clear_of_avoids {marks : List Char} {p : Pattern} (avoiding : p.avoids marks = true)
    {s e : Spot} (reached : e ∈ p.ends s) : Clear marks s e := by
  induction p generalizing s e with
  | one p =>
    obtain ⟨before, after⟩ := s
    rw [ends] at reached
    split at reached
    · cases reached
    · next c rest split =>
      obtain rfl : after = c :: rest := split
      split at reached
      · next passes =>
        rw [List.mem_singleton.mp reached]
        exact Clear.step (notMem_of_avoids avoiding passes) before rest
      · cases reached
  | many p => exact clear_of_mem_passing avoiding reached
  | seq first second ihFirst ihSecond =>
    obtain ⟨one, two⟩ := Bool.and_eq_true_iff.mp avoiding
    obtain ⟨m, upTo, onward⟩ := mem_ends_seq.mp reached
    exact (ihFirst one upTo).trans (ihSecond two onward)
  | alt first second ihFirst ihSecond =>
    obtain ⟨one, two⟩ := Bool.and_eq_true_iff.mp avoiding
    rcases List.mem_append.mp reached with inFirst | inSecond
    · exact ihFirst one inFirst
    · exact ihSecond two inSecond
  | empty =>
    rw [List.mem_singleton.mp reached]
    exact Clear.refl marks s
  | wordEdge | lineStart | textEnd =>
    rw [ends] at reached
    split at reached
    · rw [List.mem_singleton.mp reached]
      exact Clear.refl marks s
    · cases reached

end CatalogueViewer.Text.Pattern
