import CatalogueViewer.Text.Lines
import Mathlib.Data.List.TakeWhile

/-!
# Pieces of a text

How a text falls into the pieces between its line feeds, and is put together again from pieces
without one.
-/

namespace CatalogueViewer.Text

theorem drop_length_takeWhile {α : Type} (p : α → Bool) (l : List α) :
    l.drop (l.takeWhile p).length = l.dropWhile p := by
  induction l with
  | nil => rfl
  | cons a l ih => by_cases first : p a <;> simp [first, ih]

theorem takeWhile_append_of_stop {α : Type} {p : α → Bool} {run rest : List α}
    (all : ∀ a ∈ run, p a = true) (stop : ∀ a ∈ rest.head?, p a = false) :
    (run ++ rest).takeWhile p = run := by
  rw [List.takeWhile_append_of_pos all]
  cases rest with
  | nil => simp
  | cons a rest => simp [stop a rfl]

theorem dropWhile_of_stop {α : Type} {p : α → Bool} {l : List α}
    (stop : ∀ a ∈ l.head?, p a = false) : l.dropWhile p = l := by
  cases l with
  | nil => rfl
  | cons a l => simp [stop a rfl]

theorem dropWhile_append_of_stop {α : Type} {p : α → Bool} {run rest : List α}
    (all : ∀ a ∈ run, p a = true) (stop : ∀ a ∈ rest.head?, p a = false) :
    (run ++ rest).dropWhile p = rest := by
  rw [List.dropWhile_append_of_pos all, dropWhile_of_stop stop]

theorem dropWhile_append_of_head? {α : Type} {p : α → Bool} {rest : List α}
    (stop : ∀ a ∈ rest.head?, p a = false) (run : List α) :
    (run ++ rest).dropWhile p = run.dropWhile p ++ rest := by
  induction run with
  | nil => exact dropWhile_of_stop stop
  | cons a run ih => by_cases first : p a <;> simp [first, ih]

theorem head?_dropWhile {α : Type} (p : α → Bool) (l : List α) :
    ∀ a ∈ (l.dropWhile p).head?, p a = false := by
  intro a first
  have stop := List.head?_dropWhile_not p l
  rwa [Option.mem_def.mp first] at stop

/-- A text is one line or goes on after a line feed. -/
theorem inLine_or_feed (s : List Char) :
    '\n' ∉ s ∨ ∃ line rest, '\n' ∉ line ∧ s = line ++ '\n' :: rest := by
  by_cases inLine : '\n' ∈ s
  · obtain ⟨line, rest, split, first⟩ := List.eq_append_cons_of_mem inLine
    exact .inr ⟨line, rest, first, split⟩
  · exact .inl inLine

@[elab_as_elim]
theorem lineInduction {motive : List Char → Prop}
    (inLine : ∀ line, '\n' ∉ line → motive line)
    (feed : ∀ line rest, '\n' ∉ line → motive rest → motive (line ++ '\n' :: rest))
    (s : List Char) : motive s := by
  rcases inLine_or_feed s with whole | ⟨line, rest, inside, rfl⟩
  · exact inLine s whole
  · exact feed line rest inside (lineInduction inLine feed rest)
termination_by s.length
decreasing_by
  subst_vars
  simp only [List.length_append, List.length_cons]
  omega

theorem splitBreaks_append_feed {line : List Char} (inLine : '\n' ∉ line) (s : List Char) :
    splitBreaks (line ++ '\n' :: s) = line :: splitBreaks s := by
  induction line with
  | nil => simp [splitBreaks]
  | cons c line ih =>
    obtain ⟨other, rest⟩ : '\n' ≠ c ∧ '\n' ∉ line := by simpa using inLine
    rw [List.cons_append, splitBreaks, if_neg (Ne.symm other), ih rest]

theorem splitBreaks_of_inLine {line : List Char} (inLine : '\n' ∉ line) :
    splitBreaks line = [line] := by
  induction line with
  | nil => rfl
  | cons c line ih =>
    obtain ⟨other, rest⟩ : '\n' ≠ c ∧ '\n' ∉ line := by simpa using inLine
    rw [splitBreaks, if_neg (Ne.symm other), ih rest]

theorem lines_append_feed {line : List Char} (inLine : '\n' ∉ line) (s : List Char) :
    lines (line ++ '\n' :: s) = dropReturn line :: lines s := by
  rw [lines, splitBreaks_append_feed inLine]
  cases pieces : splitBreaks s with
  | nil => exact absurd pieces (splitBreaks_ne_nil s)
  | cons next others => rw [linesOfPieces, lines, pieces]

theorem lines_of_inLine {line : List Char} (inLine : '\n' ∉ line) (some : line ≠ []) :
    lines line = [line] := by
  rw [lines, splitBreaks_of_inLine inLine, linesOfPieces]
  simp [some]

/-- A text that ends a line and another one after it. -/
theorem lines_append (before s : List Char) :
    lines (before ++ '\n' :: s) = lines (before ++ ['\n']) ++ lines s := by
  induction before using lineInduction with
  | inLine line inLine =>
    rw [lines_append_feed inLine, lines_append_feed inLine]
    rfl
  | feed line rest inLine ih =>
    rw [List.append_assoc, List.cons_append, lines_append_feed inLine, ih, List.append_assoc,
      List.cons_append, lines_append_feed inLine, List.cons_append]

theorem inLine_of_mem_splitBreaks {s line : List Char} (member : line ∈ splitBreaks s) :
    '\n' ∉ line := by
  induction s generalizing line with
  | nil => simp [List.mem_singleton.mp member]
  | cons c s ih =>
    unfold splitBreaks at member
    split at member
    · rcases List.mem_cons.mp member with rfl | later
      · exact List.not_mem_nil
      · exact ih later
    · next other =>
      cases pieces : splitBreaks s with
      | nil => exact absurd pieces (splitBreaks_ne_nil s)
      | cons first others =>
        rw [pieces] at member ih
        rcases List.mem_cons.mp member with rfl | later
        · have inside := ih List.mem_cons_self
          simp [Ne.symm other, inside]
        · exact ih (List.mem_cons_of_mem _ later)

theorem splitBreaks_joinBreaks {pieces : List (List Char)} (some : pieces ≠ [])
    (inLine : ∀ line ∈ pieces, '\n' ∉ line) : splitBreaks (joinBreaks pieces) = pieces := by
  induction pieces with
  | nil => exact absurd rfl some
  | cons line others ih =>
    have first := inLine line List.mem_cons_self
    cases others with
    | nil => exact splitBreaks_of_inLine first
    | cons next rest =>
      have later := ih (List.cons_ne_nil _ _) fun l member =>
        inLine l (List.mem_cons_of_mem _ member)
      rw [joinBreaks, splitBreaks_append_feed first, later]

/-- The text with its pieces changed one by one. -/
def mapBreaks (f : List Char → List Char) (s : List Char) : List Char :=
  joinBreaks ((splitBreaks s).map f)

theorem mapBreaks_of_inLine (f : List Char → List Char) {line : List Char} (inLine : '\n' ∉ line) :
    mapBreaks f line = f line := by
  rw [mapBreaks, splitBreaks_of_inLine inLine]
  rfl

theorem mapBreaks_append_feed (f : List Char → List Char) {line : List Char}
    (inLine : '\n' ∉ line) (s : List Char) :
    mapBreaks f (line ++ '\n' :: s) = f line ++ '\n' :: mapBreaks f s := by
  rw [mapBreaks, mapBreaks, splitBreaks_append_feed inLine]
  cases pieces : splitBreaks s with
  | nil => exact absurd pieces (splitBreaks_ne_nil s)
  | cons next others => rfl

theorem mapBreaks_congr {f g : List Char → List Char}
    (same : ∀ line, '\n' ∉ line → f line = g line) (s : List Char) :
    mapBreaks f s = mapBreaks g s := by
  rw [mapBreaks, List.map_congr_left fun line member => same line (inLine_of_mem_splitBreaks member),
    mapBreaks]

theorem splitBreaks_mapBreaks {f : List Char → List Char}
    (inLine : ∀ line, '\n' ∉ line → '\n' ∉ f line) (s : List Char) :
    splitBreaks (mapBreaks f s) = (splitBreaks s).map f := by
  apply splitBreaks_joinBreaks
  · simp [splitBreaks_ne_nil]
  · intro line member
    obtain ⟨piece, inside, rfl⟩ := List.mem_map.mp member
    exact inLine piece (inLine_of_mem_splitBreaks inside)

theorem mapBreaks_mapBreaks {f : List Char → List Char}
    (inLine : ∀ line, '\n' ∉ line → '\n' ∉ f line) (g : List Char → List Char) (s : List Char) :
    mapBreaks g (mapBreaks f s) = mapBreaks (g ∘ f) s := by
  rw [mapBreaks, splitBreaks_mapBreaks inLine, List.map_map, mapBreaks]

/-! ### Carriage returns at line ends -/

theorem dropReturn_eq_self_iff {line : List Char} :
    dropReturn line = line ↔ line.getLast? ≠ some '\r' := by
  unfold dropReturn
  split
  · next last =>
    refine iff_of_false (fun same => ?_) (not_not.mpr last)
    have shorter := congrArg List.length same
    have some : line ≠ [] := by
      rintro rfl
      cases last
    have positive := List.length_pos_iff.mpr some
    rw [List.length_dropLast] at shorter
    omega
  · next other => exact iff_of_true rfl other

theorem dropReturn_append_return (line : List Char) : dropReturn (line ++ ['\r']) = line := by
  rw [dropReturn, if_pos List.getLast?_concat, List.dropLast_concat]

theorem dropReturn_cons {c : Char} {line : List Char} (more : ¬(c = '\r' ∧ line = [])) :
    dropReturn (c :: line) = c :: dropReturn line := by
  cases line with
  | nil =>
    rw [dropReturn_eq_self_iff.mpr (by simpa using more)]
    rfl
  | cons d line =>
    simp only [dropReturn, List.getLast?_cons_cons, List.dropLast_cons_cons]
    split <;> rfl

theorem dropReturn_sublist (line : List Char) : (dropReturn line).Sublist line := by
  unfold dropReturn
  split
  · exact List.dropLast_sublist line
  · exact List.Sublist.refl line

theorem inLine_of_mem_lines {s line : List Char} (member : line ∈ lines s) : '\n' ∉ line := by
  induction s using lineInduction with
  | inLine whole inLine =>
    by_cases none : whole = []
    · rw [none] at member
      cases member
    · rw [lines_of_inLine inLine none, List.mem_singleton] at member
      exact member ▸ inLine
  | feed first rest inLine ih =>
    rw [lines_append_feed inLine] at member
    rcases List.mem_cons.mp member with rfl | later
    · exact fun inside => inLine ((dropReturn_sublist first).subset inside)
    · exact ih later

theorem linesOfPieces_eq_self {pieces : List (List Char)} (filled : ∀ line ∈ pieces, line ≠ [])
    (ends : ∀ line ∈ pieces, line.getLast? ≠ some '\r') : linesOfPieces pieces = pieces := by
  induction pieces with
  | nil => rfl
  | cons line others ih =>
    cases others with
    | nil => simp [linesOfPieces, filled line List.mem_cons_self]
    | cons next others =>
      have first := dropReturn_eq_self_iff.mpr (ends line List.mem_cons_self)
      rw [linesOfPieces, first, ih (fun l member => filled l (List.mem_cons_of_mem line member))
        fun l member => ends l (List.mem_cons_of_mem line member)]

/-- Lines with something on them, none of which ends with a carriage return, are read back. -/
theorem lines_joinBreaks {pieces : List (List Char)} (filled : ∀ line ∈ pieces, line ≠ [])
    (inLine : ∀ line ∈ pieces, '\n' ∉ line) (ends : ∀ line ∈ pieces, line.getLast? ≠ some '\r') :
    lines (joinBreaks pieces) = pieces := by
  by_cases none : pieces = []
  · rw [none]
    rfl
  · rw [lines, splitBreaks_joinBreaks none inLine, linesOfPieces_eq_self filled ends]

/-- The pieces without a carriage return at the end, the last one excepted. -/
def dropReturns : List (List Char) → List (List Char)
  | [] => []
  | [last] => [last]
  | line :: next :: others => dropReturn line :: dropReturns (next :: others)

theorem mem_dropReturns {line : List Char} {pieces : List (List Char)}
    (member : line ∈ dropReturns pieces) :
    ∃ piece ∈ pieces, line = piece ∨ line = dropReturn piece := by
  induction pieces with
  | nil => cases member
  | cons first others ih =>
    cases others with
    | nil => exact ⟨line, member, .inl rfl⟩
    | cons next others =>
      rcases List.mem_cons.mp member with rfl | later
      · exact ⟨first, List.mem_cons_self, .inr rfl⟩
      · obtain ⟨piece, inside, same⟩ := ih later
        exact ⟨piece, List.mem_cons_of_mem _ inside, same⟩

end CatalogueViewer.Text
