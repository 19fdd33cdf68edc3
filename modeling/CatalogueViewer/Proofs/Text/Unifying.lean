import CatalogueViewer.Diagram.GroupHeader
import CatalogueViewer.Proofs.Text.Pieces

/-!
# Trimmed texts and unified line ends

What trimming and unifying line ends leave of a text.
-/

namespace CatalogueViewer.Text

variable {s : List Char}

theorem isBlankText_trimStart (s : List Char) : isBlankText (trimStart s) = isBlankText s := by
  have split := List.takeWhile_append_dropWhile (p := isBlank) (l := s)
  have front : isBlankText (s.takeWhile isBlank) = true := List.all_takeWhile
  calc isBlankText (trimStart s)
      = isBlankText (s.takeWhile isBlank ++ trimStart s) := by
        rw [isBlankText_append, front, Bool.true_and]
    _ = isBlankText s := congrArg isBlankText split

theorem trimEnd_eq_nil_iff (s : List Char) : trimEnd s = [] ↔ isBlankText s = true := by
  have reversed := trimStart_eq_nil_iff s.reverse
  rw [isBlankText, List.all_reverse] at reversed
  rw [trimEnd, dropWhileEnd, List.reverse_eq_nil_iff]
  exact reversed

theorem trim_eq_nil_iff (s : List Char) : trim s = [] ↔ isBlankText s = true := by
  rw [trim, trimEnd_eq_nil_iff, isBlankText_trimStart]

theorem trimEnd_cons_of_visible {c : Char} (visible : isBlank c = false) (s : List Char) :
    trimEnd (c :: s) = c :: trimEnd s := by
  unfold trimEnd dropWhileEnd
  rw [List.reverse_cons, List.dropWhile_append]
  split
  · next none => simp [visible, List.isEmpty_iff.mp none]
  · simp

theorem trimStart_append {s : List Char} (some : trimStart s ≠ []) (t : List Char) :
    trimStart (s ++ t) = trimStart s ++ t := by
  unfold trimStart at some ⊢
  rw [List.dropWhile_append, if_neg (by rwa [List.isEmpty_iff])]

theorem trimStart_append_eq_nil {c : Char} (blank : isBlank c = true) {s : List Char}
    (none : trimStart s = []) : trimStart (s ++ [c]) = [] := by
  unfold trimStart at none ⊢
  rw [List.dropWhile_append, none]
  simp [blank]

theorem trimEnd_append_blank {c : Char} (blank : isBlank c = true) (s : List Char) :
    trimEnd (s ++ [c]) = trimEnd s := by
  simp [trimEnd, dropWhileEnd, blank]

theorem trim_append_blank {c : Char} (blank : isBlank c = true) (s : List Char) :
    trim (s ++ [c]) = trim s := by
  by_cases none : trimStart s = []
  · rw [trim, trim, trimStart_append_eq_nil blank none, none]
  · rw [trim, trim, trimStart_append none, trimEnd_append_blank blank]

theorem trim_append_of_blank {s t : List Char} (blank : ∀ c ∈ t, isBlank c = true) :
    trim (s ++ t) = trim s := by
  induction t generalizing s with
  | nil => rw [List.append_nil]
  | cons c t ih =>
    obtain ⟨first, rest⟩ := List.forall_mem_cons.mp blank
    rw [List.append_cons, ih rest, trim_append_blank first]

theorem trim_blank_append {s t : List Char} (blank : ∀ c ∈ s, isBlank c = true) :
    trim (s ++ t) = trim t := by
  rw [trim, trimStart, List.dropWhile_append_of_pos blank]
  rfl

theorem dropWhileEnd_isPrefix (drop : Char → Bool) (s : List Char) : dropWhileEnd drop s <+: s := by
  rw [dropWhileEnd, ← List.reverse_suffix, List.reverse_reverse]
  exact List.dropWhile_suffix drop

theorem trimEnd_isPrefix (s : List Char) : trimEnd s <+: s := dropWhileEnd_isPrefix isBlank s

theorem getLast?_trimEnd (s : List Char) : ∀ c ∈ (trimEnd s).getLast?, isBlank c = false := by
  rw [trimEnd, dropWhileEnd, List.getLast?_reverse]
  exact head?_dropWhile _ _

theorem trim_isInfix (s : List Char) : trim s <:+: s := by
  have front : trimStart s <:+ s := List.dropWhile_suffix isBlank
  exact (trimEnd_isPrefix (trimStart s)).isInfix.trans front.isInfix

theorem trim_sublist (s : List Char) : (trim s).Sublist s := (trim_isInfix s).sublist

theorem unifyBreaks_eq_nil_iff (s : List Char) : unifyBreaks s = [] ↔ s = [] := by
  fun_cases unifyBreaks s <;> simp

theorem length_unifyBreaks_le (s : List Char) : (unifyBreaks s).length ≤ s.length := by
  fun_induction unifyBreaks s <;> simp only [List.length_cons, List.length_nil] at * <;> omega

theorem unifyBreaks_cons {c : Char} {s : List Char} (single : ¬(c = '\r' ∧ s.head? = some '\n')) :
    unifyBreaks (c :: s) = c :: unifyBreaks s := by
  rw [unifyBreaks]
  rintro r rfl rfl
  exact single ⟨rfl, rfl⟩

/-- A text starts with a line end of two characters or with a character of its own. -/
theorem return_or_single (c : Char) (s : List Char) :
    (∃ r, c = '\r' ∧ s = '\n' :: r) ∨ ¬(c = '\r' ∧ s.head? = some '\n') := by
  by_cases paired : c = '\r' ∧ s.head? = some '\n'
  · obtain ⟨r, split⟩ := List.head?_eq_some_iff.mp paired.2
    exact .inl ⟨r, paired.1, split⟩
  · exact .inr paired

theorem unifyBreaks_append_feed {line : List Char} (inLine : '\n' ∉ line) (s : List Char) :
    unifyBreaks (line ++ '\n' :: s) = dropReturn line ++ '\n' :: unifyBreaks s := by
  induction line with
  | nil => exact unifyBreaks_cons (by simp)
  | cons c line ih =>
    obtain ⟨-, rest⟩ : '\n' ≠ c ∧ '\n' ∉ line := by simpa using inLine
    by_cases last : c = '\r' ∧ line = []
    · obtain ⟨rfl, rfl⟩ := last
      rfl
    · have single : ¬(c = '\r' ∧ (line ++ '\n' :: s).head? = some '\n') := by
        rintro ⟨same, next⟩
        cases line with
        | nil => exact last ⟨same, rfl⟩
        | cons d line =>
          cases next
          exact rest List.mem_cons_self
      rw [List.cons_append, unifyBreaks_cons single, ih rest, dropReturn_cons last, List.cons_append]

theorem unifyBreaks_of_inLine {line : List Char} (inLine : '\n' ∉ line) :
    unifyBreaks line = line := by
  induction line with
  | nil => rfl
  | cons c line ih =>
    obtain ⟨-, rest⟩ : '\n' ≠ c ∧ '\n' ∉ line := by simpa using inLine
    rw [unifyBreaks_cons, ih rest]
    rintro ⟨-, next⟩
    exact rest (List.mem_of_mem_head? next)

/-- The pieces of a text with unified line ends: only the last one can end with a carriage
return. -/
theorem splitBreaks_unifyBreaks (s : List Char) :
    splitBreaks (unifyBreaks s) = dropReturns (splitBreaks s) := by
  induction s using lineInduction with
  | inLine line inLine => rw [unifyBreaks_of_inLine inLine, splitBreaks_of_inLine inLine]; rfl
  | feed line rest inLine ih =>
    have still : '\n' ∉ dropReturn line := fun inside => inLine ((dropReturn_sublist line).subset inside)
    rw [unifyBreaks_append_feed inLine, splitBreaks_append_feed still, ih,
      splitBreaks_append_feed inLine]
    cases pieces : splitBreaks rest with
    | nil => exact absurd pieces (splitBreaks_ne_nil rest)
    | cons next others => rfl

theorem getLast?_unifyBreaks (s : List Char) : (unifyBreaks s).getLast? = s.getLast? := by
  fun_induction unifyBreaks s with
  | case1 r ih => rw [List.getLast?_cons, ih, List.getLast?_cons_cons, List.getLast?_cons]
  | case2 c r _ ih => rw [List.getLast?_cons, ih, List.getLast?_cons]
  | case3 => rfl

theorem unifyBreaks_eq_self_iff (s : List Char) :
    unifyBreaks s = s ↔ ¬ ['\r', '\n'] <:+: s := by
  fun_induction unifyBreaks s with
  | case1 r ih =>
    refine iff_of_false (fun same => by cases same) (not_not.mpr ⟨[], r, rfl⟩)
  | case2 c r single ih =>
    have first : ¬ ['\r', '\n'] <+: c :: r := by
      rintro ⟨rest, same⟩
      cases same
      exact single rest rfl rfl
    rw [List.infix_cons_iff, or_iff_right first, ← ih, List.cons_inj_right]
  | case3 => simp

/-- One carriage return before a line feed goes, so it takes two for one to stay. -/
theorem not_infix_unifyBreaks {s : List Char} (none : ¬ ['\r', '\r', '\n'] <:+: s) :
    ¬ ['\r', '\n'] <:+: unifyBreaks s := by
  fun_induction unifyBreaks s with
  | case1 r ih =>
    rw [List.infix_cons_iff]
    rintro (⟨rest, same⟩ | later)
    · cases same
    · exact ih (fun inside => none (inside.trans ⟨['\r', '\n'], [], by simp⟩)) later
  | case2 c r single ih =>
    rw [List.infix_cons_iff]
    rintro (⟨rest, same⟩ | later)
    · obtain ⟨rfl, next⟩ := List.cons.inj same
      cases r with
      | nil => cases next
      | cons d r =>
        rcases return_or_single d r with ⟨r, rfl, rfl⟩ | other
        · exact none ⟨[], r, rfl⟩
        · rw [unifyBreaks_cons other] at next
          cases next
          exact single r rfl rfl
    · exact ih (fun inside => none (List.infix_cons inside)) later
  | case3 => simp

/-- No blank stands at either end. -/
structure IsTrimmed (s : List Char) : Prop where
  start : ∀ c ∈ s.head?, isBlank c = false
  stop : ∀ c ∈ s.getLast?, isBlank c = false

theorem IsTrimmed.trimStart_eq {s : List Char} (trimmed : IsTrimmed s) : trimStart s = s :=
  dropWhile_of_stop trimmed.start

theorem IsTrimmed.trim_eq {s : List Char} (trimmed : IsTrimmed s) : trim s = s := by
  have stop : s.reverse.dropWhile isBlank = s.reverse := by
    apply dropWhile_of_stop
    rw [List.head?_reverse]
    exact trimmed.stop
  rw [trim, trimmed.trimStart_eq, trimEnd, dropWhileEnd, stop, List.reverse_reverse]

theorem trimStart_cons_of_visible {c : Char} (visible : isBlank c = false) (s : List Char) :
    trimStart (c :: s) = c :: s := List.dropWhile_cons_of_neg (by simp [visible])

/-- A trimmed text is empty or starts with a visible character. -/
theorem trim_eq_nil_or_cons (s : List Char) :
    trim s = [] ∨ ∃ c r, isBlank c = false ∧ trim s = c :: r := by
  cases front : trimStart s with
  | nil => exact .inl (by rw [trim, front]; rfl)
  | cons c r =>
    have visible : isBlank c = false := by
      have first := List.head?_dropWhile_not isBlank s
      rw [show s.dropWhile isBlank = c :: r from front] at first
      simpa using first
    exact .inr ⟨c, trimEnd r, visible, by rw [trim, front, trimEnd_cons_of_visible visible]⟩

theorem isTrimmed_trim (s : List Char) : IsTrimmed (trim s) where
  start := by
    rcases trim_eq_nil_or_cons s with none | ⟨c, r, visible, split⟩
    · simp [none]
    · simpa [split] using visible
  stop := getLast?_trimEnd (trimStart s)

theorem IsTrimmed.unifyBreaks {s : List Char} (trimmed : IsTrimmed s) :
    IsTrimmed (unifyBreaks s) where
  start := by
    cases s with
    | nil => simp [Text.unifyBreaks]
    | cons c r =>
      have visible := trimmed.start c rfl
      have single : ¬(c = '\r' ∧ r.head? = some '\n') := by
        rintro ⟨rfl, -⟩
        cases visible
      rw [unifyBreaks_cons single]
      simpa using visible
  stop := by
    rw [getLast?_unifyBreaks]
    exact trimmed.stop

theorem trimStart_trim (s : List Char) : trimStart (trim s) = trim s := by
  rcases trim_eq_nil_or_cons s with none | ⟨c, r, visible, split⟩
  · rw [none]
    rfl
  · rw [split, trimStart_cons_of_visible visible]

theorem trimStart_unifyBreaks_trim (s : List Char) :
    trimStart (unifyBreaks (trim s)) = unifyBreaks (trim s) := by
  rcases trim_eq_nil_or_cons s with none | ⟨c, r, visible, split⟩
  · rw [none]
    rfl
  · rw [split, unifyBreaks, trimStart_cons_of_visible visible]
    rintro _ rfl _
    cases visible

end CatalogueViewer.Text

theorem CatalogueViewer.Diagram.unify_eq_nil_iff (s : List Char) :
    unify s = [] ↔ Text.isBlankText s = true := by
  rw [unify, Text.unifyBreaks_eq_nil_iff, Text.trim_eq_nil_iff]
