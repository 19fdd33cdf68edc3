import CatalogueViewer.Proofs.Markdown.Fences

/-!
# Fenced code

A fenced block in a quote or in an item runs over lines that do not start flush.  One in neither
ends where the scan sees its fence close.
-/

namespace CatalogueViewer.Markdown

open Text

section

variable {outer : List Container} {opened : FenceMark} {s stop : List Char}

theorem blankLine?_of_atLineEnd (paired : returnsPaired s) (ends : atLineEnd s) :
    blankLine? s = some (nextLine s) := by
  obtain ⟨next, after⟩ := Option.isSome_iff_exists.mp ends
  rw [blankLine?, dropWhile_isSpacing_of_atLineEnd ends, after, (lineEnd?_eq_some paired after).1]

theorem place_of_afterClosingFence? (paired : returnsPaired s) (proper : opened.Proper)
    (found : afterClosingFence? opened s = some stop) :
    stop <:+ s ∧ nextLine stop = nextLine s ∧ blankLine? stop = some (nextLine s) := by
  have feed : '\n' ≠ opened.mark := by
    rcases proper.1 with mark | mark <;> rw [mark] <;> decide
  obtain ⟨ends, ⟨rfl, rfl⟩ | ⟨count, spaces, -, rfl⟩⟩ := afterClosingFence?_eq_some found
  · exact ⟨List.suffix_rfl, rfl, rfl⟩
  · have suffix : stop <:+
        List.replicate count opened.mark ++ (List.replicate spaces ' ' ++ stop) := by
      rw [← List.append_assoc]
      exact List.suffix_append _ _
    have same : nextLine stop =
        nextLine (List.replicate count opened.mark ++ (List.replicate spaces ' ' ++ stop)) := by
      rw [nextLine_append (by simp [feed]), nextLine_append (by simp)]
    exact ⟨suffix, same, same ▸ blankLine?_of_atLineEnd (returnsPaired_suffix suffix paired) ends⟩

/-! ### In quotes and items -/

def NotFlush (s : List Char) : Prop := startsFlush s = false

theorem skips_fencedLines (indented : Indented outer) (held : holdsLines outer) (paired : returnsPaired s)
    (proper : opened.Proper) (indent fuel : Nat) :
    Skips NotFlush s (fencedLines outer indent opened fuel (nextLine s)).next ∧
      (fencedLines outer indent opened fuel (nextLine s)).next <:+
        (fencedLines outer indent opened fuel (nextLine s)).stop ∧
      (fencedLines outer indent opened fuel (nextLine s)).stop <:+ nextLine s := by
  induction fuel generalizing s with
  | zero => exact ⟨.last s, List.suffix_rfl, List.suffix_rfl⟩
  | succ fuel ih =>
    have paired' := returnsPaired_suffix (nextLine_suffix s) paired
    have lead := leads_enterAll outer (nextLine s)
    unfold fencedLines
    rcases entered : enterAll outer (nextLine s) with ⟨inside, c⟩
    rw [entered] at lead
    cases inside with
    | false => exact ⟨.last s, List.suffix_rfl, List.suffix_rfl⟩
    | true =>
      -- The line starts with what a quote or an item asks for.
      have start : NotFlush (nextLine s) :=
        not_startsFlush_of_enterAll indented held (by rw [entered])
      have skipped : Leads (nextLine s) (c.skip indent).rest := lead.trans (leads_use indent c)
      dsimp only
      split
      next stop closing =>
        split at closing
        · cases closing
        next k d _ used =>
          have reached := skipped.trans (leads_use (4 - indent) (c.skip indent))
          rw [used] at reached
          have paired' := returnsPaired_suffix reached.suffix paired'
          obtain ⟨suffix, same, line⟩ := place_of_afterClosingFence? paired' proper closing
          rw [← reached.nextLine_eq] at same line
          rw [line]
          exact ⟨.more start (.last _), same ▸ nextLine_suffix stop, suffix.trans reached.suffix⟩
      next =>
        rw [← skipped.nextLine_eq]
        obtain ⟨skip, next, stop⟩ := ih paired'
        exact ⟨.more start skip, next, stop.trans (nextLine_suffix _)⟩

/-! ### Outside of quotes and items -/

theorem skip_zero (s : List Char) : Cursor.skip 0 ⟨s, 0, 0⟩ = ⟨s, 0, 0⟩ := by
  simp [Cursor.skip, Cursor.use, Cursor.useRest]

theorem fencedLines_succ (lists : holdsLines outer = false) (fuel : Nat) (s : List Char) :
    fencedLines outer 0 opened (fuel + 1) s =
      match closing? opened s with
      | some stop => ⟨[], stop, (blankLine? stop).getD stop⟩
      | none =>
        let more := fencedLines outer 0 opened fuel (nextLine s)
        { more with code := codeLine 0 (takeLine s) ++ more.code } := by
  simp only [fencedLines, enterAll_of_lists lists, skip_zero, Nat.sub_zero]
  rfl

/-- The lines that a fenced block reads are those that the scan hides. -/
structure Hides (opened : FenceMark) (s : List Char) (code : CodeEnd) : Prop where
  next : code.next <:+ code.stop
  stop : code.stop <:+ s
  regular : regularFrom none (places code.next)
  scan : headings (some opened) (lines s) = headings none (lines code.next)
  hidden : ∃ hidden, places s = hidden ++ places code.next ∧
    ∀ p ∈ hidden, p <:+ s ∧ code.stop.length < p.length

theorem Hides.of_closing (paired : returnsPaired s) (proper : opened.Proper) (text : s ≠ [])
    (regular : regularFrom (fenceAfter (some opened) (lineAt s)) (places (nextLine s)))
    (closing : closing? opened s = some stop) :
    Hides opened s ⟨[], stop, (blankLine? stop).getD stop⟩ := by
  obtain ⟨ends, suffix, same, shorter, closed⟩ := closing?_eq_some paired proper closing
  have after : blankLine? stop = some (nextLine s) :=
    same ▸ blankLine?_of_atLineEnd (returnsPaired_suffix suffix paired) ends
  have scan := headings_lines_inside opened text
  rw [after, Option.getD_some]
  have inside : ∀ p ∈ [s], p <:+ s ∧ stop.length < p.length := by
    intro p member
    obtain rfl := List.mem_singleton.mp member
    exact ⟨List.suffix_rfl, shorter text⟩
  have next : nextLine s <:+ stop := same ▸ nextLine_suffix stop
  rcases closed with closed | last
  · have leaves : fenceAfter (some opened) (lineAt s) = none := by
      rw [fenceAfter, closed]
      rfl
    rw [leaves] at scan regular
    exact ⟨next, suffix, regular, scan, [s], places_eq text, inside⟩
  · -- The text ends with this line, so nothing is left for the scan to hide.
    have rest : regularFrom none (places (nextLine s)) := by
      rw [last]
      rfl
    refine ⟨next, suffix, rest, ?_, [s], places_eq text, inside⟩
    rw [scan, last]
    rfl

theorem Hides.of_line {code : CodeEnd} (text : s ≠ [])
    (stays : fenceAfter (some opened) (lineAt s) = some opened)
    (rest : Hides opened (nextLine s) code) (line : List Char) :
    Hides opened s { code with code := line } := by
  obtain ⟨next, stop, regular, same, hidden, split, inside⟩ := rest
  have scan := headings_lines_inside opened text
  rw [stays] at scan
  refine ⟨next, stop.trans (nextLine_suffix s), regular, scan.trans same, s :: hidden, ?_, ?_⟩
  · rw [places_eq text, split, List.cons_append]
  · intro p member
    rcases List.mem_cons.mp member with rfl | later
    · exact ⟨List.suffix_rfl, Nat.lt_of_le_of_lt stop.length_le (length_nextLine_lt text)⟩
    · obtain ⟨suffix, longer⟩ := inside p later
      exact ⟨suffix.trans (nextLine_suffix s), longer⟩

theorem hides_fencedLines (lists : holdsLines outer = false) (paired : returnsPaired s)
    (proper : opened.Proper) (regular : regularFrom (some opened) (places s)) {fuel : Nat}
    (enough : s.length < fuel) : Hides opened s (fencedLines outer 0 opened fuel s) := by
  induction fuel generalizing s with
  | zero => cases enough
  | succ fuel ih =>
    rw [fencedLines_succ lists]
    by_cases text : s = []
    · subst text
      exact ⟨List.suffix_rfl, List.suffix_rfl, rfl, rfl, [], rfl, by simp⟩
    · obtain ⟨plain, regular⟩ : regularAt (some opened) s ∧
          regularFrom (fenceAfter (some opened) (lineAt s)) (places (nextLine s)) := by
        simpa [regularFrom_places text] using regular
      cases closing : closing? opened s with
      | some stop => exact .of_closing paired proper text regular closing
      | none =>
        have stays : fenceAfter (some opened) (lineAt s) = some opened := by
          rw [fenceAfter, if_neg]
          intro closed
          have spaces : closesPlainly opened.mark (lineAt s) := by
            simpa [regularAt, closed] using plain
          simpa [closing] using closing?_of_closes paired proper closed spaces
        rw [stays] at regular
        have shorter := length_nextLine_lt text
        have paired' := returnsPaired_suffix (nextLine_suffix s) paired
        exact .of_line text stays (ih paired' regular (by omega)) _

end

end CatalogueViewer.Markdown
