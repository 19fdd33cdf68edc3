import CatalogueViewer.Proofs.Text.Matching
import CatalogueViewer.Proofs.Text.Rewriting

/-!
# Patterns on one line

A pattern that stays in its line reads a line the same way whatever the lines after it are:
`startsText_append`.
-/

namespace CatalogueViewer.Text

variable {line more others : List Char} {before : Option Char} {e : Spot}

theorem head?_isWordChar_append (endsMore : EndsLine more) (line : List Char) :
    (line ++ more).head?.any isWordChar = line.head?.any isWordChar := by
  cases line with
  | nil => rcases endsMore with rfl | ⟨rest, rfl⟩ <;> rfl
  | cons c line => rfl

theorem isWordEdge_append (endsMore : EndsLine more) (endsOthers : EndsLine others) :
    Spot.isWordEdge ⟨before, line ++ more⟩ = Spot.isWordEdge ⟨before, line ++ others⟩ := by
  unfold Spot.isWordEdge
  rw [head?_isWordChar_append endsMore, head?_isWordChar_append endsOthers]

namespace Pattern

/-- No match passes over a line feed or asks for the end of the text. -/
def staysInLine : Pattern → Bool
  | one p | many p => !p '\n'
  | seq first second | alt first second => first.staysInLine && second.staysInLine
  | empty | wordEdge | lineStart => true
  | textEnd => false

theorem mem_passing_append {p : Char → Bool} (breaks : p '\n' = false) (endsMore : EndsLine more)
    (others : List Char) (reached : e ∈ Spot.passing p before (line ++ more)) :
    ∃ b rest, e = ⟨b, rest ++ more⟩ ∧
      ⟨b, rest ++ others⟩ ∈ Spot.passing p before (line ++ others) := by
  have starts : ∀ b s, (⟨b, s⟩ : Spot) ∈ Spot.passing p b s := by
    intro b s
    cases s <;> exact List.mem_cons_self
  induction line generalizing before with
  | nil =>
    have alone : Spot.passing p before more = [⟨before, more⟩] := by
      rcases endsMore with rfl | ⟨rest, rfl⟩
      · rfl
      · rw [Spot.passing, breaks]
        rfl
    rw [List.nil_append, alone] at reached
    exact ⟨before, [], List.mem_singleton.mp reached, starts before others⟩
  | cons c line ih =>
    rw [List.cons_append, Spot.passing] at reached
    rcases List.mem_cons.mp reached with here | further
    · exact ⟨before, c :: line, here, starts before (c :: line ++ others)⟩
    · split at further
      · next passes =>
        obtain ⟨b, rest, same, there⟩ := ih further
        refine ⟨b, rest, same, ?_⟩
        rw [List.cons_append, Spot.passing, if_pos passes]
        exact List.mem_cons_of_mem _ there
      · cases further

/-- A match in a line is one before other lines as well. -/
theorem mem_ends_append {p : Pattern} (inLine : p.staysInLine = true) (endsMore : EndsLine more)
    (endsOthers : EndsLine others) (reached : e ∈ p.ends ⟨before, line ++ more⟩) :
    ∃ b rest, e = ⟨b, rest ++ more⟩ ∧ ⟨b, rest ++ others⟩ ∈ p.ends ⟨before, line ++ others⟩ := by
  induction p generalizing before line e with
  | empty => exact ⟨before, line, List.mem_singleton.mp reached, List.mem_singleton_self _⟩
  | one p =>
    have breaks : p '\n' = false := by simpa [staysInLine] using inLine
    cases line with
    | nil => rcases endsMore with rfl | ⟨rest, rfl⟩ <;> simp [ends, breaks] at reached
    | cons c line =>
      obtain ⟨fits, rfl⟩ := mem_ends_one.mp reached
      exact ⟨some c, line, rfl, mem_ends_one.mpr ⟨fits, rfl⟩⟩
  | many p =>
    have breaks : p '\n' = false := by simpa [staysInLine] using inLine
    exact mem_passing_append breaks endsMore others reached
  | seq first second ihFirst ihSecond =>
    obtain ⟨one, two⟩ := Bool.and_eq_true_iff.mp inLine
    obtain ⟨m, upTo, onward⟩ := mem_ends_seq.mp reached
    obtain ⟨b, rest, rfl, middle⟩ := ihFirst one upTo
    obtain ⟨c, left, rfl, there⟩ := ihSecond two onward
    exact ⟨c, left, rfl, mem_ends_seq.mpr ⟨_, middle, there⟩⟩
  | alt first second ihFirst ihSecond =>
    obtain ⟨one, two⟩ := Bool.and_eq_true_iff.mp inLine
    rcases List.mem_append.mp reached with inFirst | inSecond
    · obtain ⟨b, rest, rfl, there⟩ := ihFirst one inFirst
      exact ⟨b, rest, rfl, List.mem_append_left _ there⟩
    · obtain ⟨b, rest, rfl, there⟩ := ihSecond two inSecond
      exact ⟨b, rest, rfl, List.mem_append_right _ there⟩
  | wordEdge =>
    obtain ⟨edge, rfl⟩ := mem_ends_wordEdge.mp reached
    rw [isWordEdge_append endsMore endsOthers] at edge
    exact ⟨before, line, rfl, mem_ends_wordEdge.mpr ⟨edge, rfl⟩⟩
  | lineStart =>
    obtain ⟨fresh, rfl⟩ := mem_ends_lineStart.mp reached
    exact ⟨before, line, rfl, mem_ends_lineStart.mpr ⟨fresh, rfl⟩⟩
  | textEnd => cases inLine

theorem startsText_append {p : Pattern} (inLine : p.staysInLine = true) (endsMore : EndsLine more)
    (endsOthers : EndsLine others) (starts : p.startsText (line ++ more) = true) :
    p.startsText (line ++ others) = true := by
  obtain ⟨e, reached⟩ := matchesAt_iff.mp starts
  obtain ⟨b, rest, -, there⟩ := mem_ends_append inLine endsMore endsOthers reached
  exact matchesAt_iff.mpr ⟨_, there⟩

end Pattern

end CatalogueViewer.Text
