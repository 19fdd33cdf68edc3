import CatalogueViewer.Engine.Preview
import CatalogueViewer.Proofs.Text.Framing

/-!
# The width of drawings

A drawing is as wide as its longest line or its label, with a border at either side.  The limit
holds for the lines without their borders, so a drawing passes it by the borders of a line that
fills it: `width_of_answer`.
-/

namespace CatalogueViewer.Preview

open Text Diagram

variable {attempt : AttemptId} {source : String} {drawing : Drawing} {line : List Char}

/-- What the upper edge of a drawing says. -/
def label (source : List Char) : List Char :=
  (((Kind.detect? source).map Kind.name).getD "diagram").toList

theorem label_inLine_short (source : List Char) :
    '\n' ∉ label source ∧ (label source).length ≤ 15 := by
  unfold label
  cases Kind.detect? source with
  | none => decide
  | some kind => cases kind <;> decide

/-- A source that passes the checks is drawn in its frame. -/
theorem draw_eq_ok_iff {source body : List Char} :
    draw source = .ok body ↔
      checkBalance source (Kind.detect? source == some .flowchart) = .ok () ∧
        checkTitles source = .ok () ∧ frame maxWidth (label source) source = body := by
  unfold draw
  dsimp only
  cases checkBalance source (Kind.detect? source == some .flowchart) with
  | error fault => simp [Except.mapError, bind, Except.bind]
  | ok balanced =>
    cases checkTitles source with
    | error fault => simp [Except.mapError, bind, Except.bind]
    | ok titled => simp [Except.mapError, bind, Except.bind, label]

theorem body_of_answer (drawn : answer attempt source = .ok drawing) :
    drawing.body.toList = frame maxWidth (label source.toList) source.toList := by
  unfold answer at drawn
  cases outcome : draw source.toList with
  | error fault =>
    rw [outcome] at drawn
    cases drawn
  | ok body =>
    obtain ⟨-, -, framed⟩ := draw_eq_ok_iff.mp outcome
    rw [outcome] at drawn
    obtain rfl := Except.ok.inj drawn
    rw [String.toList_ofList, framed]

/-- A border and a blank at either side. -/
def borders : Nat := 4

theorem length_of_mem_lines (drawn : answer attempt source = .ok drawing)
    (member : line ∈ lines drawing.body.toList) :
    line.length =
      max (min maxWidth (longest source.toList)) ((label source.toList).length + 2) + borders := by
  rw [body_of_answer drawn, lines_frame (label_inLine_short source.toList).1] at member
  rw [length_of_mem_frameLines member, frameWidth_frameContent, borders]

theorem lines_ne_nil (drawn : answer attempt source = .ok drawing) :
    lines drawing.body.toList ≠ [] := by
  rw [body_of_answer drawn, lines_frame (label_inLine_short source.toList).1, frameLines]
  exact List.cons_ne_nil _ _

/-- All lines of a drawing have the width of the longest line of the source, up to the limit, or of
the label, and the borders.  So no line passes the limit by more than the borders, and none passes
it exactly if every line of the source leaves room for them. -/
theorem width_of_answer (drawn : answer attempt source = .ok drawing) :
    (∀ line ∈ lines drawing.body.toList, line.length =
      max (min maxWidth (longest source.toList)) ((label source.toList).length + 2) + borders) ∧
    (∀ line ∈ lines drawing.body.toList, line.length ≤ maxWidth + borders) ∧
    ((∀ line ∈ lines drawing.body.toList, line.length ≤ maxWidth) ↔
      ∀ line ∈ lines source.toList, (trimEnd line).length + borders ≤ maxWidth) := by
  have short := (label_inLine_short source.toList).2
  have width : ∀ line ∈ lines drawing.body.toList, line.length =
      max (min maxWidth (longest source.toList)) ((label source.toList).length + 2) + borders :=
    fun line => length_of_mem_lines drawn
  have room : (∀ line ∈ lines source.toList, (trimEnd line).length + borders ≤ maxWidth) ↔
      longest source.toList ≤ maxWidth - borders := by
    rw [longest_le_iff]
    exact forall₂_congr fun line _ => by simp only [maxWidth, borders]; omega
  refine ⟨width, fun line member => ?_, ?_⟩
  · rw [width line member]
    simp only [maxWidth, borders]
    omega
  · rw [room]
    constructor
    · intro within
      obtain ⟨line, member⟩ := List.exists_mem_of_ne_nil _ (lines_ne_nil drawn)
      have fits := within line member
      rw [width line member] at fits
      simp only [maxWidth, borders] at fits ⊢
      omega
    · intro fits line member
      rw [width line member]
      simp only [maxWidth, borders] at fits ⊢
      omega

/-- A chart with a line of white space at its end. -/
theorem width_of_answer_chart :
    answer ⟨"preview-0", by decide⟩ "pie\n\"größe\" : 1  \n\t" =
      .ok ⟨⟨"preview-0", by decide⟩,
        "┌─ pie ───────┐\n│ pie         │\n│ \"größe\" : 1 │\n│             │\n└─────────────┘"⟩ ∧
    ∀ line ∈ lines
        "┌─ pie ───────┐\n│ pie         │\n│ \"größe\" : 1 │\n│             │\n└─────────────┘".toList,
      line.length ≤ maxWidth := by
  have drawn : answer ⟨"preview-0", by decide⟩ "pie\n\"größe\" : 1  \n\t" =
      .ok ⟨⟨"preview-0", by decide⟩,
        "┌─ pie ───────┐\n│ pie         │\n│ \"größe\" : 1 │\n│             │\n└─────────────┘"⟩ := by
    decide +kernel
  exact ⟨drawn, (width_of_answer drawn).2.2.mpr (by decide)⟩

/-- A source with a message that fills its line up to the limit. -/
def longMessage : List Char := "sequenceDiagram\nA->>B: ".toList ++ List.replicate 89 'x'

theorem exists_answer_longMessage (attempt : AttemptId) :
    ∃ drawing, answer attempt (String.ofList longMessage) = .ok drawing := by
  have balanced : ∀ brackets, checkBalance longMessage brackets = .ok () := by decide +kernel
  have drawn := draw_eq_ok_iff.mpr ⟨balanced _, by decide +kernel, rfl⟩
  exact ⟨_, by rw [answer, String.toList_ofList, drawn]; rfl⟩

/-- The borders come on top of a line that fills the limit. -/
theorem not_within_maxWidth_longMessage :
    ¬ ∀ (attempt : AttemptId) (source : String) (drawing : Drawing),
      answer attempt source = .ok drawing →
        ∀ line ∈ lines drawing.body.toList, line.length ≤ maxWidth := by
  intro within
  obtain ⟨drawing, drawn⟩ := exists_answer_longMessage ⟨"preview-0", by decide⟩
  obtain ⟨line, member⟩ := List.exists_mem_of_ne_nil _ (lines_ne_nil drawn)
  have fits := within _ _ _ drawn line member
  have long : longest longMessage = maxWidth := by decide +kernel
  rw [length_of_mem_lines drawn member, String.toList_ofList, long] at fits
  simp only [maxWidth, borders] at fits
  omega

end CatalogueViewer.Preview
