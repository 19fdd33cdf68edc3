import CatalogueViewer.Markdown.Block
import CatalogueViewer.Proofs.Text.Pieces

/-!
# Places of a document

The lines of a document with the places where they start, and how a reader that stands at one place
comes to a later one: `Passes` within the text, `Skips` from line to line.
-/

namespace CatalogueViewer.Markdown

open Text

/-! ### The start of the next line -/

theorem nextLine_append {before : List Char} (inLine : '\n' ∉ before) (s : List Char) :
    nextLine (before ++ s) = nextLine s := by
  induction before with
  | nil => rfl
  | cons c before ih =>
    obtain ⟨other, rest⟩ : '\n' ≠ c ∧ '\n' ∉ before := by simpa using inLine
    rw [List.cons_append, nextLine, if_neg (Ne.symm other), ih rest]

theorem nextLine_suffix (s : List Char) : nextLine s <:+ s := by
  induction s with
  | nil => exact List.suffix_rfl
  | cons c s ih =>
    rw [nextLine]
    split
    · exact List.suffix_cons c s
    · exact ih.trans (List.suffix_cons c s)

theorem length_nextLine_lt {s : List Char} (some : s ≠ []) : (nextLine s).length < s.length := by
  cases s with
  | nil => exact absurd rfl some
  | cons c s =>
    have short := (nextLine_suffix s).length_le
    rw [nextLine, List.length_cons]
    split <;> omega

theorem length_lt_of_suffix_nextLine {s t : List Char} (suffix : t <:+ nextLine s)
    (some : t ≠ []) : t.length < s.length := by
  have text : s ≠ [] := by
    rintro rfl
    exact some (List.suffix_nil.mp suffix)
  have short := length_nextLine_lt text
  have within := suffix.length_le
  omega

/-! ### Lines and their places -/

/-- The places where lines start; `atStart` tells whether one starts here. -/
def placesFrom (atStart : Bool) : List Char → List (List Char)
  | [] => []
  | c :: s => (if atStart then [c :: s] else []) ++ placesFrom (c == '\n') s

def places (s : List Char) : List (List Char) := placesFrom true s

/-- The line that starts at a place. -/
def lineAt (place : List Char) : List Char := (lines place).headD []

theorem placesFrom_false (s : List Char) : placesFrom false s = places (nextLine s) := by
  induction s with
  | nil => rfl
  | cons c s ih =>
    rw [placesFrom, nextLine]
    by_cases feed : c = '\n'
    · simp [feed, places]
    · simp [beq_false_of_ne feed, feed, ih]

theorem places_eq {s : List Char} (some : s ≠ []) : places s = s :: places (nextLine s) := by
  cases s with
  | nil => exact absurd rfl some
  | cons c s =>
    have rest : placesFrom (c == '\n') s = places (nextLine (c :: s)) := by
      rw [nextLine]
      by_cases feed : c = '\n'
      · simp [feed, places]
      · simp [beq_false_of_ne feed, feed, placesFrom_false]
    simp [places, placesFrom, rest]

theorem suffix_of_mem_places {s p : List Char} (member : p ∈ places s) : p <:+ s := by
  by_cases none : s = []
  · rw [none] at member
    cases member
  · rw [places_eq none] at member
    rcases List.mem_cons.mp member with rfl | later
    · exact List.suffix_rfl
    · exact (suffix_of_mem_places later).trans (nextLine_suffix s)
termination_by s.length
decreasing_by exact length_nextLine_lt none

theorem suffix_nextLine_of_places {s t p : List Char} {taken : List (List Char)}
    (split : places s = taken ++ places t) (member : p ∈ taken) : t <:+ nextLine p := by
  induction taken generalizing s with
  | nil => cases member
  | cons q taken ih =>
    have text : s ≠ [] := by
      rintro rfl
      cases split
    rw [places_eq text, List.cons_append, List.cons.injEq] at split
    obtain ⟨rfl, rest⟩ := split
    rcases List.mem_cons.mp member with rfl | later
    · by_cases none : t = []
      · exact none ▸ List.nil_suffix
      · have here : t ∈ places (nextLine p) := by
          rw [rest, places_eq none]
          exact List.mem_append_right _ List.mem_cons_self
        exact suffix_of_mem_places here
    · exact ih rest later

theorem lines_eq {s : List Char} (some : s ≠ []) : lines s = lineAt s :: lines (nextLine s) := by
  rcases inLine_or_feed s with inLine | ⟨line, rest, inLine, rfl⟩
  · have last : nextLine s = [] := by
      simpa [nextLine] using nextLine_append inLine []
    rw [last, lineAt, lines_of_inLine inLine some]
    rfl
  · rw [nextLine_append inLine, lineAt, lines_append_feed inLine]
    simp [nextLine]

theorem lineAt_prefix (s : List Char) : lineAt s <+: s := by
  rcases inLine_or_feed s with inLine | ⟨line, rest, inLine, rfl⟩
  · by_cases none : s = []
    · subst none
      exact List.prefix_rfl
    · rw [lineAt, lines_of_inLine inLine none]
      exact List.prefix_rfl
  · rw [lineAt, lines_append_feed inLine, List.headD_cons, dropReturn]
    split
    · exact (List.dropLast_prefix line).trans (List.prefix_append line _)
    · exact List.prefix_append line _

/-! ### Carriage returns -/

/-- Every carriage return is followed by a line feed. -/
def returnsPaired : List Char → Bool
  | [] => true
  | c :: s => (c != '\r' || s.head? == some '\n') && returnsPaired s

theorem returnsPaired_suffix {s t : List Char} (suffix : t <:+ s) (paired : returnsPaired s) :
    returnsPaired t := by
  obtain ⟨before, rfl⟩ := suffix
  induction before with
  | nil => exact paired
  | cons c before ih =>
    rw [List.cons_append, returnsPaired, Bool.and_eq_true] at paired
    exact ih paired.2

theorem no_return {line rest : List Char} (inLine : '\n' ∉ line)
    (paired : returnsPaired (line ++ rest))
    (apart : line.getLast? = some '\r' → rest.head? ≠ some '\n') : '\r' ∉ line := by
  induction line with
  | nil => exact List.not_mem_nil
  | cons c line ih =>
    obtain ⟨other, after⟩ : '\n' ≠ c ∧ '\n' ∉ line := by simpa using inLine
    obtain ⟨followed, paired⟩ : (c = '\r' → (line ++ rest).head? = some '\n') ∧
        returnsPaired (line ++ rest) := by
      simpa [returnsPaired, imp_iff_not_or] using paired
    cases line with
    | nil =>
      have same : c ≠ '\r' := fun h => apart (by simp [h]) (followed h)
      simpa using same.symm
    | cons d line =>
      have same : c ≠ '\r' := by
        intro h
        have feed : d = '\n' := by simpa using followed h
        exact after (by simp [feed])
      have rest := ih after paired (by simpa using apart)
      simpa [same.symm] using rest

theorem lineAt_eq_takeWhile {s : List Char} (paired : returnsPaired s) :
    lineAt s = s.takeWhile (!isReturn ·) := by
  have inside {line : List Char} (feed : '\n' ∉ line) (ret : '\r' ∉ line) :
      ∀ c ∈ line, (!isReturn c) = true := by
    intro c member
    have one : c ≠ '\n' := fun h => feed (h ▸ member)
    have other : c ≠ '\r' := fun h => ret (h ▸ member)
    simp [isReturn, one, other]
  rcases inLine_or_feed s with inLine | ⟨line, rest, inLine, rfl⟩
  · have ret : '\r' ∉ s := @no_return s [] inLine (by simpa using paired) (by simp)
    rw [List.takeWhile_eq_self_iff.mpr (inside inLine ret)]
    by_cases none : s = []
    · rw [none]
      rfl
    · rw [lineAt, lines_of_inLine inLine none]
      rfl
  · rw [lineAt, lines_append_feed inLine, List.headD_cons, dropReturn]
    split
    next last =>
      obtain ⟨before, rfl⟩ := List.getLast?_eq_some_iff.mp last
      have feed : '\n' ∉ before := fun h => inLine (List.mem_append_left _ h)
      rw [List.append_assoc] at paired ⊢
      have ret := no_return feed paired (by simp)
      rw [List.dropLast_concat, List.takeWhile_append_of_pos (inside feed ret)]
      simp [isReturn]
    next last =>
      have ret := no_return inLine paired (fun h => absurd h last)
      rw [List.takeWhile_append_of_pos (inside inLine ret)]
      simp [isReturn]

theorem nextTextLine_eq {s : List Char} (paired : returnsPaired s) :
    nextTextLine s = nextLine s := by
  fun_induction nextTextLine s with
  | case1 => rfl
  | case2 s => simp [nextLine]
  | case3 c s other ends =>
    have feed : c = '\n' := by
      have either : c = '\n' ∨ c = '\r' := by simpa using ends
      refine either.resolve_right fun ret => ?_
      subst ret
      obtain ⟨t, followed⟩ : ∃ t, s = '\n' :: t := by
        cases s <;> simp_all [returnsPaired]
      exact other t rfl followed
    rw [nextLine, if_pos feed]
  | case4 c s other inside ih =>
    have feed : c ≠ '\n' := fun h => inside (by simp [h])
    rw [nextLine, if_neg feed, ih (returnsPaired_suffix (List.suffix_cons c s) paired)]

theorem lineEnd?_eq_some {s next : List Char} (paired : returnsPaired s)
    (ends : lineEnd? s = some next) : next = nextLine s ∧ lineAt s = [] := by
  rw [lineAt_eq_takeWhile paired]
  unfold lineEnd? at ends
  split at ends
  · simp_all [nextLine]
  · simp_all [nextLine, isReturn]
  · simp_all [nextLine, isReturn]
  next t other =>
    cases t <;> simp_all [returnsPaired]
  · cases ends

/-! ### Passing over text -/

section

variable (P : List Char → Prop)

/-- A reader gets from one place to another, and every line that starts on the way has `P`. -/
inductive Passes : List Char → List Char → Prop
  | here (s) : Passes s s
  | char {c s t} : c ≠ '\n' → Passes s t → Passes (c :: s) t
  | feed {s t} : P s → Passes s t → Passes ('\n' :: s) t

/-- A later line starts at a place, and every line in between has `P`. -/
inductive Skips : List Char → List Char → Prop
  | last (s) : Skips s (nextLine s)
  | more {s t} : P (nextLine s) → Skips (nextLine s) t → Skips s t

end

section

variable {P : List Char → Prop} {s t u : List Char}

theorem Passes.trans (first : Passes P s t) (second : Passes P t u) : Passes P s u := by
  induction first with
  | here => exact second
  | char other _ ih => exact .char other (ih second)
  | feed starts _ ih => exact .feed starts (ih second)

theorem Passes.suffix (pass : Passes P s t) : t <:+ s := by
  induction pass with
  | here => exact List.suffix_rfl
  | char _ _ ih => exact ih.trans (List.suffix_cons _ _)
  | feed _ _ ih => exact ih.trans (List.suffix_cons _ _)

theorem passes_append {before : List Char} (inLine : '\n' ∉ before) (s : List Char) :
    Passes P (before ++ s) s := by
  induction before with
  | nil => exact .here s
  | cons c before ih =>
    obtain ⟨other, rest⟩ : '\n' ≠ c ∧ '\n' ∉ before := by simpa using inLine
    exact .char other.symm (ih rest)

theorem passes_dropWhile {drop : Char → Bool} (feed : drop '\n' = false) (s : List Char) :
    Passes P s (s.dropWhile drop) := by
  have inLine : '\n' ∉ s.takeWhile drop := by
    intro member
    simpa [feed] using List.mem_takeWhile_imp member
  simpa using passes_append (P := P) inLine (s.dropWhile drop)

theorem passes_nextLine (starts : P (nextLine s)) : Passes P s (nextLine s) := by
  induction s with
  | nil => exact .here []
  | cons c s ih =>
    rw [nextLine] at starts ⊢
    split at starts
    next feed =>
      rw [feed, if_pos rfl]
      exact .feed starts (.here s)
    next other =>
      rw [if_neg other]
      exact .char other (ih starts)

theorem Skips.of_nextLine_eq (skip : Skips P s t) (same : nextLine s = nextLine u) :
    Skips P u t := by
  cases skip with
  | last => exact same ▸ .last u
  | more starts rest => exact .more (same ▸ starts) (same ▸ rest)

theorem Passes.skips (pass : Passes P s t) : Skips P s (nextLine t) := by
  induction pass with
  | here s => exact .last s
  | @char c s t other _ ih =>
    have same : nextLine s = nextLine (c :: s) := by rw [nextLine, if_neg other]
    exact ih.of_nextLine_eq same
  | @feed s t starts _ ih =>
    have same : nextLine ('\n' :: s) = s := by simp [nextLine]
    exact .more (same.symm ▸ starts) (same.symm ▸ ih)

/-- A place that is passed to lies on the first line or on a later one. -/
theorem Passes.exists_line (pass : Passes P s t) :
    ∃ line before, (line = s ∨ Skips P s line ∧ P line) ∧ '\n' ∉ before ∧ line = before ++ t := by
  induction pass with
  | here s => exact ⟨s, [], .inl rfl, List.not_mem_nil, rfl⟩
  | @char c s t other _ ih =>
    have same : nextLine s = nextLine (c :: s) := by rw [nextLine, if_neg other]
    obtain ⟨line, before, rfl | ⟨skip, starts⟩, inLine, split⟩ := ih
    · exact ⟨c :: line, c :: before, .inl rfl, by simp [inLine, other.symm], by rw [split]; rfl⟩
    · exact ⟨line, before, .inr ⟨skip.of_nextLine_eq same, starts⟩, inLine, split⟩
  | @feed s t starts _ ih =>
    have same : nextLine ('\n' :: s) = s := by simp [nextLine]
    obtain ⟨line, before, rfl | ⟨skip, starts'⟩, inLine, split⟩ := ih
    · have last : Skips P ('\n' :: line) line := by
        simpa [same] using Skips.last (P := P) ('\n' :: line)
      exact ⟨line, before, .inr ⟨last, starts⟩, inLine, split⟩
    · have more : Skips P ('\n' :: s) line := .more (same.symm ▸ starts) (same.symm ▸ skip)
      exact ⟨line, before, .inr ⟨more, starts'⟩, inLine, split⟩

theorem Skips.suffix (skip : Skips P s t) : t <:+ nextLine s := by
  induction skip with
  | last s => exact List.suffix_rfl
  | more _ _ ih => exact ih.trans (nextLine_suffix _)

end

/-! ### Bytes -/

theorem byteLength_le_of_suffix {s t : List Char} (suffix : t <:+ s) :
    byteLength t ≤ byteLength s := by
  obtain ⟨before, rfl⟩ := suffix
  rw [byteLength_append]
  exact Nat.le_add_left _ _

theorem byteLength_lt_of_suffix {s t : List Char} (suffix : t <:+ s)
    (shorter : t.length < s.length) : byteLength t < byteLength s := by
  obtain ⟨before, rfl⟩ := suffix
  cases before with
  | nil => simp at shorter
  | cons c before =>
    have size := c.utf8Size_pos
    rw [List.cons_append, byteLength_cons, byteLength_append]
    omega

end CatalogueViewer.Markdown
