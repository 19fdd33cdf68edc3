import CatalogueViewer.Proofs.Text.Pieces
import CatalogueViewer.Proofs.Text.Unifying
import Mathlib.Data.List.TakeDrop

/-!
# Group headers line by line

What a line with a group header consists of, and what quoting its title makes of it.  A title in
quotes is left alone.
-/

namespace CatalogueViewer.Diagram

open Text GroupHeader

variable {h : GroupHeader} {line title label tail : List Char}

theorem isBlank_of_isTabOrSpace {c : Char} (gap : isTabOrSpace c = true) : isBlank c = true := by
  simp only [isTabOrSpace, Bool.or_eq_true, beq_iff_eq] at gap
  rcases gap with rfl | rfl <;> rfl

namespace GroupHeader

theorem keyword_eq : keyword = ['s', 'u', 'b', 'g', 'r', 'a', 'p', 'h'] := rfl

/-- The line is this header. -/
structure IsOf (h : GroupHeader) (line : List Char) : Prop where
  indent : ∀ c ∈ h.indent, isTabOrSpace c = true
  gap : ∀ c ∈ h.gap, isTabOrSpace c = true
  spaced : h.gap ≠ []
  rest : ∀ c ∈ h.rest.head?, isTabOrSpace c = false
  line_eq : line = h.indent ++ (keyword ++ (h.gap ++ h.rest))

theorem IsOf.ofLine? (is : h.IsOf line) : ofLine? line = some h := by
  obtain ⟨indent, gap, rest⟩ := h
  have blank := is.indent
  have inGap := is.gap
  have stop := is.rest
  dsimp only at blank inGap stop
  have front : line.takeWhile isTabOrSpace = indent := by
    rw [is.line_eq]
    exact takeWhile_append_of_stop blank (by simp [keyword_eq, isTabOrSpace])
  have body : line.drop indent.length = keyword ++ (gap ++ rest) := by
    rw [is.line_eq]
    exact List.drop_left
  have starts : keyword.isPrefixOf (keyword ++ (gap ++ rest)) = true :=
    List.isPrefixOf_iff_prefix.mpr (List.prefix_append _ _)
  have spaced : ¬ gap.isEmpty = true := fun none => is.spaced (List.isEmpty_iff.mp none)
  unfold GroupHeader.ofLine?
  dsimp only
  rw [front, body, if_pos starts, List.drop_left, takeWhile_append_of_stop inGap stop,
    if_neg spaced, List.drop_left]

theorem isOf_of_ofLine? (header : ofLine? line = some h) : h.IsOf line := by
  unfold GroupHeader.ofLine? at header
  dsimp only at header
  rw [drop_length_takeWhile] at header
  split at header
  · next starts =>
    obtain ⟨tail, split⟩ := List.isPrefixOf_iff_prefix.mp starts
    rw [← split, List.drop_left, drop_length_takeWhile] at header
    split at header
    · cases header
    · next spaced =>
      cases header
      refine ⟨fun c => List.mem_takeWhile_imp, fun c => List.mem_takeWhile_imp, ?_,
        head?_dropWhile _ _, ?_⟩
      · exact fun none => spaced (List.isEmpty_iff.mpr none)
      · dsimp only
        rw [List.takeWhile_append_dropWhile, split, List.takeWhile_append_dropWhile]
  · cases header

theorem ofLine?_append {indent gap : List Char} (inIndent : ∀ c ∈ indent, isTabOrSpace c = true)
    (inGap : ∀ c ∈ gap, isTabOrSpace c = true) (spaced : gap ≠ []) (s : List Char) :
    GroupHeader.ofLine? (indent ++ (keyword ++ (gap ++ s))) =
      some ⟨indent, gap ++ s.takeWhile isTabOrSpace, s.dropWhile isTabOrSpace⟩ := by
  refine IsOf.ofLine? ⟨inIndent, ?_, ?_, head?_dropWhile _ _, ?_⟩
  · intro c member
    exact (List.mem_append.mp member).elim (inGap c) List.mem_takeWhile_imp
  · exact fun none => spaced (List.append_eq_nil_iff.mp none).1
  · simp only [List.append_assoc, List.takeWhile_append_dropWhile]

theorem trim_dropWhile_isTabOrSpace (s : List Char) :
    trim (s.dropWhile isTabOrSpace) = trim s := by
  have blank : ∀ c ∈ s.takeWhile isTabOrSpace, isBlank c = true :=
    fun c member => isBlank_of_isTabOrSpace (List.mem_takeWhile_imp member)
  calc trim (s.dropWhile isTabOrSpace)
      = trim (s.takeWhile isTabOrSpace ++ s.dropWhile isTabOrSpace) := (trim_blank_append blank).symm
    _ = trim s := by rw [List.takeWhile_append_dropWhile]

/-- A header whose title is in quotes is a header again. -/
theorem IsOf.withTitle (is : h.IsOf line) (title tail : List Char) :
    IsOf ⟨h.indent, [' '], '"' :: (title ++ '"' :: tail)⟩ (h.withTitle title tail) where
  indent := is.indent
  gap := by simp [isTabOrSpace]
  spaced := List.cons_ne_nil _ _
  rest := by simp [isTabOrSpace]
  line_eq := by simp [GroupHeader.withTitle]

theorem IsOf.withTitle_ne (is : h.IsOf line) (start : h.rest.head? ≠ some '"')
    (title tail : List Char) : h.withTitle title tail ≠ line := by
  intro same
  have header := (is.withTitle title tail).ofLine?
  rw [same, is.ofLine?, Option.some.injEq] at header
  rw [header] at start
  exact start rfl

theorem IsOf.append_return (is : h.IsOf line) :
    IsOf ⟨h.indent, h.gap, h.rest ++ ['\r']⟩ (line ++ ['\r']) := by
  refine ⟨is.indent, is.gap, is.spaced, ?_, by simp [is.line_eq]⟩
  dsimp only
  cases rest : h.rest with
  | nil => simp [isTabOrSpace]
  | cons c more => exact fun d first => is.rest d (by rwa [rest])

theorem hasTitle_iff : h.hasTitle title = true ↔ title ≠ [] ∨ 1 < h.gap.length := by
  simp [hasTitle]

/-- Where the title is empty, the last blank of the gap stands in for it. -/
theorem IsOf.exists_title (is : h.IsOf line) (split : h.rest = title ++ tail)
    (titled : h.hasTitle title = true) :
    ∃ gap part, line = h.indent ++ (keyword ++ (gap ++ (part ++ tail))) ∧
      (∀ c ∈ gap, isTabOrSpace c = true) ∧ gap ≠ [] ∧ part ≠ [] ∧
      (∀ c ∈ part, c ∈ title ∨ isTabOrSpace c = true) ∧ trim part = trim title := by
  by_cases empty : title = []
  · have spare := (hasTitle_iff.mp titled).resolve_left (not_not.mpr empty)
    obtain ⟨gap, c, whole⟩ : ∃ gap c, h.gap = gap ++ [c] :=
      ⟨_, _, (List.dropLast_concat_getLast is.spaced).symm⟩
    have inGap := is.gap
    rw [whole, List.forall_mem_append, List.forall_mem_singleton] at inGap
    have spaced : gap ≠ [] := by
      rintro rfl
      rw [whole] at spare
      exact Nat.lt_irrefl _ spare
    refine ⟨gap, [c], ?_, inGap.1, spaced, List.cons_ne_nil _ _, ?_, ?_⟩
    · rw [is.line_eq, whole, split, empty, List.append_assoc, List.nil_append]
    · exact List.forall_mem_singleton.mpr (.inr inGap.2)
    · have blank := isBlank_of_isTabOrSpace inGap.2
      rw [empty, ← List.nil_append [c], trim_append_blank blank]
  · exact ⟨h.gap, title, by rw [is.line_eq, split], is.gap, is.spaced, empty, fun _ => .inl, rfl⟩

theorem bareTitle?_of_quote (quoted : '"' ∈ h.rest) : h.bareTitle? = none := by
  rw [bareTitle?, if_pos (List.contains_iff_mem.mpr quoted)]

theorem bareTitle?_of_unquoted (unquoted : '"' ∉ h.rest) :
    h.bareTitle? = if needsQuotes (trim h.rest) then some (trim h.rest) else none := by
  rw [bareTitle?, if_neg fun quoted => unquoted (List.contains_iff_mem.mp quoted)]

/-! ### Titles with a parenthetical -/

/-- A character of a title that a parenthetical may follow. -/
def isPlain (c : Char) : Bool := c != '"' && c != '(' && c != '['

theorem isPlain_of_isTabOrSpace {c : Char} (gap : isTabOrSpace c = true) : isPlain c = true := by
  simp only [isTabOrSpace, Bool.or_eq_true, beq_iff_eq] at gap
  rcases gap with rfl | rfl <;> rfl

theorem stripEnd_append {s t : List Char} (visible : ∀ c ∈ s.getLast?, isTabOrSpace c = false)
    (gap : ∀ c ∈ t, isTabOrSpace c = true) : stripEnd (s ++ t) = s := by
  rw [stripEnd, dropWhileEnd, List.reverse_append, dropWhile_append_of_stop, List.reverse_reverse]
  · exact fun c member => gap c (List.mem_reverse.mp member)
  · rwa [List.head?_reverse]

theorem exists_stripEnd (s : List Char) : ∃ pad, s = stripEnd s ++ pad ∧
    (∀ c ∈ pad, isTabOrSpace c = true) ∧ ∀ c ∈ (stripEnd s).getLast?, isTabOrSpace c = false := by
  refine ⟨(s.reverse.takeWhile isTabOrSpace).reverse, ?_, ?_, ?_⟩
  · rw [stripEnd, dropWhileEnd, ← List.reverse_append, List.takeWhile_append_dropWhile,
      List.reverse_reverse]
  · exact fun c member => List.mem_takeWhile_imp (List.mem_reverse.mp member)
  · rw [stripEnd, dropWhileEnd, List.getLast?_reverse]
    exact head?_dropWhile _ _

/-- The rest of the header is a title, a parenthetical in brackets with the blanks before it, and
what follows. -/
structure HasLabel (h : GroupHeader) (title pad inner after : List Char) : Prop where
  rest : h.rest = title ++ (pad ++ '(' :: (inner ++ ')' :: after))
  plain : ∀ c ∈ title, isPlain c = true
  visible : ∀ c ∈ title.getLast?, isTabOrSpace c = false
  gap : ∀ c ∈ pad, isTabOrSpace c = true
  closed : ')' ∉ inner
  titled : title ++ pad ≠ [] ∨ 1 < h.gap.length

theorem HasLabel.hasTitle {pad inner after : List Char} (is : h.IsOf line)
    (has : h.HasLabel title pad inner after) : h.hasTitle title = true := by
  rw [hasTitle_iff]
  by_contra! none
  obtain ⟨rfl, single⟩ := none
  rcases has.titled with some | spare
  · obtain ⟨c, more, rfl⟩ := List.exists_cons_of_ne_nil some
    have visible := is.rest c (by rw [has.rest]; rfl)
    rw [has.gap c List.mem_cons_self] at visible
    cases visible
  · exact absurd spare (Nat.not_lt.mpr single)

theorem HasLabel.head?_ne_quote {pad inner after : List Char}
    (has : h.HasLabel title pad inner after) : h.rest.head? ≠ some '"' := by
  intro quote
  have plain := has.plain
  have gap := has.gap
  rw [has.rest] at quote
  cases title with
  | nil =>
    cases pad with
    | nil => cases quote
    | cons c pad =>
      cases quote
      cases gap _ List.mem_cons_self
  | cons c title =>
    cases quote
    cases plain _ List.mem_cons_self

theorem HasLabel.parenthetical? {pad inner after : List Char}
    (has : h.HasLabel title pad inner after) :
    h.parenthetical? = some (title, pad ++ '(' :: (inner ++ [')']), after) := by
  have part : ∀ c ∈ title ++ pad, isPlain c = true := by
    intro c member
    rcases List.mem_append.mp member with inTitle | inPad
    · exact has.plain c inTitle
    · exact isPlain_of_isTabOrSpace (has.gap c inPad)
  have splits : h.splitTitle = (title ++ pad, '(' :: (inner ++ ')' :: after)) := by
    have stop : ∀ c ∈ ('(' :: (inner ++ ')' :: after)).head?, isPlain c = false := by simp [isPlain]
    rw [splitTitle, has.rest, List.span_eq_takeWhile_dropWhile, ← List.append_assoc]
    exact Prod.ext (takeWhile_append_of_stop part stop) (dropWhile_append_of_stop part stop)
  have closes : (inner ++ ')' :: after).span (· != ')') = (inner, ')' :: after) := by
    have open_ : ∀ c ∈ inner, (c != ')') = true := by
      intro c member
      rw [bne_iff_ne]
      rintro rfl
      exact has.closed member
    rw [List.span_eq_takeWhile_dropWhile, takeWhile_append_of_stop open_ (by simp),
      dropWhile_append_of_stop open_ (by simp)]
  have titled : h.hasTitle (title ++ pad) = true := hasTitle_iff.mpr has.titled
  rw [GroupHeader.parenthetical?, splits]
  simp only [closes]
  rw [if_pos titled, stripEnd_append has.visible has.gap, List.drop_left]

theorem exists_hasLabel {after : List Char} (found : h.parenthetical? = some (title, label, after)) :
    ∃ pad inner, label = pad ++ '(' :: (inner ++ [')']) ∧ h.HasLabel title pad inner after := by
  have plain : ∀ c ∈ h.rest.takeWhile isPlain, isPlain c = true := fun c => List.mem_takeWhile_imp
  have parts := List.takeWhile_append_dropWhile (p := isPlain) (l := h.rest)
  have splits : h.splitTitle = (h.rest.takeWhile isPlain, h.rest.dropWhile isPlain) :=
    List.span_eq_takeWhile_dropWhile _ _
  generalize h.rest.takeWhile isPlain = part at plain parts splits
  generalize h.rest.dropWhile isPlain = tail at parts splits
  unfold GroupHeader.parenthetical? at found
  rw [splits] at found
  dsimp only at found
  split at found
  · next inner =>
    rw [List.span_eq_takeWhile_dropWhile] at found
    split at found
    · next inside rest closes =>
      obtain ⟨rfl, closing⟩ := Prod.mk.inj closes
      split at found
      · next titled =>
        cases found
        obtain ⟨pad, whole, gap, visible⟩ := exists_stripEnd part
        have dropped := congrArg (List.drop (stripEnd part).length) whole
        rw [List.drop_left] at dropped
        have inside := List.takeWhile_append_dropWhile (p := (· != ')')) (l := inner)
        rw [closing] at inside
        refine ⟨pad, inner.takeWhile (· != ')'), by rw [dropped], ?_, ?_, visible, gap, ?_, ?_⟩
        · rw [← parts, ← List.append_assoc, ← whole, inside]
        · exact fun c member => plain c (by rw [whole]; exact List.mem_append_left pad member)
        · intro member
          have open_ := List.mem_takeWhile_imp member
          simp at open_
        · rw [← whole]
          exact hasTitle_iff.mp titled
      · cases found
    · cases found
  · cases found

end GroupHeader

/-! ### Lines with a quoted title -/

/-- The line with its title and the parenthetical after it in quotes. -/
def quoteLabelled (line : List Char) : List Char :=
  match ofLine? line with
  | none => line
  | some h =>
    match h.parenthetical? with
    | some (title, label, after) => h.withTitle (trim title ++ label) after
    | none => line

/-- The line with its title in quotes, if the title needs them. -/
def quoteBare (line : List Char) : List Char :=
  match ofLine? line with
  | none => line
  | some h =>
    match h.bareTitle? with
    | some title => h.withTitle title []
    | none => line

theorem quoteLabelled_of_header {pad inner after : List Char} (header : ofLine? line = some h)
    (has : h.HasLabel title pad inner after) :
    quoteLabelled line = h.withTitle (trim title ++ (pad ++ '(' :: (inner ++ [')']))) after := by
  rw [quoteLabelled, header]
  dsimp only
  rw [has.parenthetical?]

/-- The title may start with blanks. -/
theorem quoteLabelled_of_visible {indent gap pad inner after : List Char} {c : Char}
    (inIndent : ∀ c ∈ indent, isTabOrSpace c = true) (inGap : ∀ c ∈ gap, isTabOrSpace c = true)
    (spaced : gap ≠ []) (plain : ∀ c ∈ title, isPlain c = true) (last : title.getLast? = some c)
    (visible : isTabOrSpace c = false) (inPad : ∀ c ∈ pad, isTabOrSpace c = true)
    (closed : ')' ∉ inner) :
    quoteLabelled (indent ++ (keyword ++ (gap ++ (title ++ (pad ++ '(' :: (inner ++ ')' :: after)))))) =
      indent ++ (keyword ++ ' ' :: '"' ::
        (trim title ++ (pad ++ '(' :: (inner ++ [')'])) ++ '"' :: after)) := by
  have split := List.takeWhile_append_dropWhile (p := isTabOrSpace) (l := title)
  have start := head?_dropWhile isTabOrSpace title
  have blank : ∀ c ∈ title.takeWhile isTabOrSpace, isTabOrSpace c = true :=
    fun c => List.mem_takeWhile_imp
  have same := trim_dropWhile_isTabOrSpace title
  generalize title.takeWhile isTabOrSpace = lead at split blank
  generalize title.dropWhile isTabOrSpace = body at split start same
  subst split
  have some : body ≠ [] := by
    rintro rfl
    rw [List.append_nil] at last
    rw [blank c (List.mem_of_getLast? last)] at visible
    cases visible
  let h : GroupHeader := ⟨indent, gap ++ lead, body ++ (pad ++ '(' :: (inner ++ ')' :: after))⟩
  have is : h.IsOf (indent ++ (keyword ++ (gap ++
      (lead ++ body ++ (pad ++ '(' :: (inner ++ ')' :: after)))))) := by
    refine ⟨inIndent, List.forall_mem_append.mpr ⟨inGap, blank⟩, ?_, ?_, by simp [h]⟩
    · exact fun none => spaced (List.append_eq_nil_iff.mp none).1
    · obtain ⟨d, more, rfl⟩ := List.exists_cons_of_ne_nil some
      exact start
  have has : h.HasLabel body pad inner after := by
    refine ⟨rfl, fun d member => plain d (List.mem_append_right lead member), ?_, inPad, closed,
      .inl fun none => some (List.append_eq_nil_iff.mp none).1⟩
    intro d final
    rw [List.getLast?_append, Option.mem_def.mp final, Option.some_or] at last
    cases last
    exact visible
  rw [quoteLabelled_of_header is.ofLine? has, same]
  simp [withTitle, h]

/-- The title is one blank. -/
theorem quoteLabelled_of_blank {indent gap inner : List Char} {c : Char}
    (inIndent : ∀ c ∈ indent, isTabOrSpace c = true) (inGap : ∀ c ∈ gap, isTabOrSpace c = true)
    (spaced : gap ≠ []) (blank : isTabOrSpace c = true) (closed : ')' ∉ inner)
    (after : List Char) :
    quoteLabelled (indent ++ (keyword ++ (gap ++ (c :: '(' :: (inner ++ ')' :: after))))) =
      indent ++ (keyword ++ ' ' :: '"' ::
        (trim [c] ++ '(' :: (inner ++ [')']) ++ '"' :: after)) := by
  let h : GroupHeader := ⟨indent, gap ++ [c], '(' :: (inner ++ ')' :: after)⟩
  have is : h.IsOf (indent ++ (keyword ++ (gap ++ (c :: '(' :: (inner ++ ')' :: after))))) := by
    refine ⟨inIndent, ?_, ?_, by simp [h, isTabOrSpace], by simp [h]⟩
    · exact List.forall_mem_append.mpr ⟨inGap, List.forall_mem_singleton.mpr blank⟩
    · exact fun none => spaced (List.append_eq_nil_iff.mp none).1
  have has : h.HasLabel [] [] inner after := by
    refine ⟨rfl, by simp, by simp, by simp, closed, .inr ?_⟩
    simpa [h] using List.length_pos_iff.mpr spaced
  have empty := trim_append_blank (isBlank_of_isTabOrSpace blank) []
  rw [quoteLabelled_of_header is.ofLine? has, ← empty]
  simp [withTitle, h]

theorem quoteBare_of_quote (is : h.IsOf line) (quoted : h.rest.head? = some '"') :
    quoteBare line = line := by
  obtain ⟨more, split⟩ := List.head?_eq_some_iff.mp quoted
  rw [quoteBare, is.ofLine?]
  dsimp only
  rw [bareTitle?_of_quote (by simp [split])]

theorem quoteLabelled_of_quote (is : h.IsOf line) (quoted : h.rest.head? = some '"') :
    quoteLabelled line = line := by
  obtain ⟨more, split⟩ := List.head?_eq_some_iff.mp quoted
  have none : h.parenthetical? = none := by
    simp [GroupHeader.parenthetical?, splitTitle, split, List.span_eq_takeWhile_dropWhile]
  rw [quoteLabelled, is.ofLine?]
  dsimp only
  rw [none]

/-- Nothing, or what follows a title from a semicolon on. -/
def FromSemicolon (tail : List Char) : Prop := tail = [] ∨ ∃ more, tail = ';' :: more

theorem FromSemicolon.head? {p : Char → Bool} (ends : FromSemicolon tail) (stop : p ';' = false) :
    ∀ c ∈ tail.head?, p c = false := by
  rcases ends with rfl | ⟨more, rfl⟩
  · simp
  · simpa using stop

theorem exists_fromSemicolon (s : List Char) :
    ∃ title tail, s = title ++ tail ∧ ';' ∉ title ∧ FromSemicolon tail := by
  refine ⟨s.takeWhile (· != ';'), s.dropWhile (· != ';'), ?_, ?_, ?_⟩
  · exact List.takeWhile_append_dropWhile.symm
  · intro member
    have other := List.mem_takeWhile_imp member
    simp at other
  · have stop := head?_dropWhile (· != ';') s
    cases tail : s.dropWhile (· != ';') with
    | nil => exact .inl rfl
    | cons c more =>
      rw [tail] at stop
      obtain rfl : c = ';' := by simpa using stop
      exact .inr ⟨more, rfl⟩

theorem forceQuote_of_header (header : ofLine? line = some h) (split : h.rest = title ++ tail)
    (other : ';' ∉ title) (ends : FromSemicolon tail) :
    forceQuote line =
      if '"' ∈ title ∨ ¬ h.hasTitle title = true then line else h.withTitle (trim title) tail := by
  have all : ∀ c ∈ title, (c != ';') = true := by
    intro c member
    exact bne_iff_ne.mpr (ne_of_mem_of_not_mem member other)
  have stop := ends.head? (p := (· != ';')) rfl
  have spans : h.rest.span (· != ';') = (title, tail) := by
    rw [split, List.span_eq_takeWhile_dropWhile]
    exact Prod.ext (takeWhile_append_of_stop all stop) (dropWhile_append_of_stop all stop)
  rw [forceQuote, header]
  dsimp only
  rw [spans]
  exact if_congr (by simp) rfl rfl

theorem forceQuote_of_quote (is : h.IsOf line) (quoted : h.rest.head? = some '"') :
    forceQuote line = line := by
  obtain ⟨more, start⟩ := List.head?_eq_some_iff.mp quoted
  obtain ⟨title, tail, split, other, ends⟩ := exists_fromSemicolon h.rest
  rw [forceQuote_of_header is.ofLine? split other ends]
  by_cases empty : title = []
  · rw [start, empty, List.nil_append] at split
    rcases ends with rfl | ⟨_, rfl⟩ <;> cases split
  · obtain ⟨c, rest, rfl⟩ := List.exists_cons_of_ne_nil empty
    rw [start, List.cons_append] at split
    obtain ⟨rfl, -⟩ := List.cons.inj split
    exact if_pos (.inl List.mem_cons_self)

/-! ### Lines that change -/

theorem quoteLabelled_ne_iff : quoteLabelled line ≠ line ↔
    ∃ h : GroupHeader, ∃ title pad inner after, h.IsOf line ∧ h.HasLabel title pad inner after := by
  constructor
  · intro changed
    cases header : ofLine? line with
    | none => exact absurd (by rw [quoteLabelled, header]) changed
    | some h =>
      cases found : h.parenthetical? with
      | none =>
        rw [quoteLabelled, header] at changed
        dsimp only at changed
        rw [found] at changed
        exact absurd rfl changed
      | some parts =>
        obtain ⟨title, label, after⟩ := parts
        obtain ⟨pad, inner, -, has⟩ := exists_hasLabel found
        exact ⟨h, title, pad, inner, after, isOf_of_ofLine? header, has⟩
  · rintro ⟨h, title, pad, inner, after, is, has⟩
    rw [quoteLabelled_of_header is.ofLine? has]
    exact is.withTitle_ne has.head?_ne_quote _ _

theorem quoteBare_ne_iff : quoteBare line ≠ line ↔
    ∃ h : GroupHeader, h.IsOf line ∧ '"' ∉ h.rest ∧ needsQuotes (trim h.rest) = true := by
  constructor
  · intro changed
    cases header : ofLine? line with
    | none => exact absurd (by rw [quoteBare, header]) changed
    | some h =>
      rw [quoteBare, header] at changed
      dsimp only at changed
      by_cases quoted : '"' ∈ h.rest
      · rw [bareTitle?_of_quote quoted] at changed
        exact absurd rfl changed
      · rw [bareTitle?_of_unquoted quoted] at changed
        split_ifs at changed with needs
        · exact ⟨h, isOf_of_ofLine? header, quoted, needs⟩
        · exact absurd rfl changed
  · rintro ⟨h, is, unquoted, needs⟩
    rw [quoteBare, is.ofLine?]
    dsimp only
    rw [bareTitle?_of_unquoted unquoted, if_pos needs]
    exact is.withTitle_ne (fun quote => unquoted (List.mem_of_mem_head? quote)) _ _

theorem forceQuote_ne_iff : forceQuote line ≠ line ↔
    ∃ h : GroupHeader, ∃ title tail, h.IsOf line ∧ h.rest = title ++ tail ∧ ';' ∉ title ∧
      FromSemicolon tail ∧ '"' ∉ title ∧ h.hasTitle title = true := by
  constructor
  · intro changed
    cases header : ofLine? line with
    | none => exact absurd (by rw [forceQuote, header]) changed
    | some h =>
      obtain ⟨title, tail, split, other, ends⟩ := exists_fromSemicolon h.rest
      rw [forceQuote_of_header header split other ends] at changed
      split_ifs at changed with keeps
      · exact absurd rfl changed
      · simp only [not_or, not_not] at keeps
        exact ⟨h, title, tail, isOf_of_ofLine? header, split, other, ends, keeps⟩
  · rintro ⟨h, title, tail, is, split, other, ends, unquoted, titled⟩
    rw [forceQuote_of_header is.ofLine? split other ends, if_neg (by simp [unquoted, titled])]
    apply is.withTitle_ne
    rw [split]
    intro quote
    cases title with
    | nil => rcases ends with rfl | ⟨more, rfl⟩ <;> cases quote
    | cons c title =>
      cases quote
      exact unquoted List.mem_cons_self

theorem quoteIfNeeded_eq (line : List Char) :
    quoteIfNeeded line = quoteBare (quoteLabelled line) := by
  cases header : ofLine? line with
  | none => simp only [quoteIfNeeded, quoteBare, quoteLabelled, header]
  | some h =>
    have is := isOf_of_ofLine? header
    cases found : h.parenthetical? with
    | none =>
      cases bare : h.bareTitle? <;>
        simp only [quoteIfNeeded, quoteBare, quoteLabelled, header, found, bare]
    | some parts =>
      simp only [quoteIfNeeded, quoteLabelled, header, found]
      exact (quoteBare_of_quote (is.withTitle _ _) rfl).symm

end CatalogueViewer.Diagram
