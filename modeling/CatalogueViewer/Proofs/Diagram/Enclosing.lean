import CatalogueViewer.Proofs.Diagram.LineByLine

/-!
# What the quotes enclose

A title that a first attempt puts in quotes has no quote of its own, but the parenthetical after it
may have some (`wellQuoted_quoteIfNeeded_iff`).  A second attempt leaves a semicolon and what
follows it outside of the quotes, a first attempt does not (`eq_forceQuote_iff`).
-/

namespace CatalogueViewer.Diagram

open Text GroupHeader

variable {h : GroupHeader} {line title label pad inner after tail out : List Char}

/-! ### Quotes inside of quotes -/

/-- The line comes out as a header whose title is in quotes.  Neither the title nor what stands in
the quotes of it has a quote, and the rest of the line is as it was. -/
structure Enclosure (line out : List Char) where
  indent : List Char
  gap : List Char
  title : List Char
  inside : List Char
  rest : List Char
  inIndent : ∀ c ∈ indent, isTabOrSpace c = true
  inGap : ∀ c ∈ gap, isTabOrSpace c = true
  spaced : gap ≠ []
  line_eq : line = indent ++ (keyword ++ (gap ++ (title ++ rest)))
  out_eq : out = indent ++ (keyword ++ ' ' :: '"' :: (inside ++ '"' :: rest))
  kept : inside.Sublist title
  unquoted : '"' ∉ title
  clean : '"' ∉ inside

def WellQuoted (line out : List Char) : Prop := Nonempty (Enclosure line out)

/-- The line is a header with a quote in the parenthetical after its title. -/
def HasQuotedLabel (line : List Char) : Prop :=
  ∃ h : GroupHeader, ∃ title pad inner after,
    h.IsOf line ∧ h.HasLabel title pad inner after ∧ '"' ∈ inner

theorem eq_of_append_quote {s t u v : List Char} (first : '"' ∉ s) (second : '"' ∉ t)
    (same : s ++ '"' :: u = t ++ '"' :: v) : u = v := by
  rcases List.append_eq_append_iff.mp same with ⟨m, rfl, split⟩ | ⟨m, rfl, split⟩
  · cases m with
    | nil => exact (List.cons.inj split).2
    | cons c m =>
      obtain ⟨rfl, -⟩ := List.cons.inj split
      simp at second
  · cases m with
    | nil => exact (List.cons.inj split).2.symm
    | cons c m =>
      obtain ⟨rfl, -⟩ := List.cons.inj split
      simp at first

theorem notMem_of_blank {c : Char} {s : List Char} (blank : ∀ d ∈ s, isTabOrSpace d = true)
    (visible : isTabOrSpace c = false) : c ∉ s := by
  intro member
  rw [blank c member] at visible
  cases visible

theorem notMem_indent {indent : List Char} (inIndent : ∀ c ∈ indent, isTabOrSpace c = true) :
    '"' ∉ indent ++ (keyword ++ [' ']) := by
  simp only [keyword_eq, List.mem_append, not_or]
  exact ⟨notMem_of_blank inIndent rfl, by decide, by decide⟩

namespace UnquotedHeader

variable {u : UnquotedHeader}

theorem exists_quote_of_label (u : UnquotedHeader) (quoted : '"' ∈ u.label) :
    ∃ front back, u.label = front ++ '"' :: (back ++ [')']) ∧ '"' ∉ front := by
  rcases u.ends with ⟨none, -⟩ | ⟨pad, inner, split, inPad, -⟩
  · rw [none] at quoted
    cases quoted
  · have inInner : '"' ∈ inner := by
      rw [split] at quoted
      have notPad : '"' ∉ pad := notMem_of_blank inPad rfl
      simpa [notPad] using quoted
    obtain ⟨front, back, whole, first⟩ := List.eq_append_cons_of_mem inInner
    refine ⟨pad ++ '(' :: front, back, by simp [split, whole], ?_⟩
    simp only [List.mem_append, List.mem_cons, not_or]
    exact ⟨notMem_of_blank inPad rfl, by decide, first⟩

theorem notMem_trim (u : UnquotedHeader) : '"' ∉ trim u.title :=
  fun member => u.unquoted ((trim_sublist _).subset member)

/-- A well quoted title ends at the first quote in its label. -/
theorem rest_of_enclosure (e : Enclosure u.line u.quoted) {front back : List Char}
    (split : u.label = front ++ '"' :: back) (first : '"' ∉ front) :
    e.rest = back ++ '"' :: u.tail := by
  have opened : (e.indent ++ (keyword ++ [' '])) ++ '"' :: (e.inside ++ '"' :: e.rest) =
      (u.indent ++ (keyword ++ [' '])) ++ '"' ::
        ((trim u.title ++ front) ++ '"' :: (back ++ '"' :: u.tail)) := by
    calc (e.indent ++ (keyword ++ [' '])) ++ '"' :: (e.inside ++ '"' :: e.rest)
        = u.quoted := Eq.trans (by simp) e.out_eq.symm
      _ = _ := by simp [quoted, split]
  have closed := eq_of_append_quote (notMem_indent e.inIndent) (notMem_indent u.inIndent) opened
  exact eq_of_append_quote e.clean (by simp [u.notMem_trim, first]) closed

theorem not_wellQuoted (u : UnquotedHeader) (inLabel : '"' ∈ u.label) :
    ¬ WellQuoted u.line u.quoted := by
  rintro ⟨e⟩
  obtain ⟨front, back, split, first⟩ := u.exists_quote_of_label inLabel
  have whole : (u.indent ++ (keyword ++ (u.gap ++ (u.title ++ front)))) ++
        '"' :: (back ++ ')' :: u.tail) =
      (e.indent ++ (keyword ++ (e.gap ++ e.title))) ++ (back ++ ')' :: '"' :: u.tail) := by
    calc (u.indent ++ (keyword ++ (u.gap ++ (u.title ++ front)))) ++ '"' :: (back ++ ')' :: u.tail)
        = u.line := by simp [line, split]
      _ = _ := by
        refine e.line_eq.trans ?_
        rw [rest_of_enclosure e split first]
        simp
  -- As many characters at the end of the line, so they are the same.
  have ends : '"' :: (back ++ ')' :: u.tail) = back ++ ')' :: '"' :: u.tail := by
    refine (List.append_inj' whole ?_).2
    simp only [List.length_cons, List.length_append]
    omega
  have shifted : (('"' :: back) ++ [')']) ++ u.tail = ((back ++ [')']) ++ ['"']) ++ u.tail := by
    simpa using ends
  cases (List.append_inj' (List.append_cancel_right shifted) rfl).2

theorem wellQuoted (u : UnquotedHeader) (clean : '"' ∉ u.label) : WellQuoted u.line u.quoted :=
  ⟨{  indent := u.indent
      gap := u.gap
      title := u.title ++ u.label
      inside := trim u.title ++ u.label
      rest := u.tail
      inIndent := u.inIndent
      inGap := u.inGap
      spaced := u.spaced
      line_eq := by simp [line]
      out_eq := by simp [quoted]
      kept := (trim_sublist u.title).append (List.Sublist.refl u.label)
      unquoted := by simp [u.unquoted, clean]
      clean := by simp [u.notMem_trim, clean] }⟩

theorem wellQuoted_iff (u : UnquotedHeader) : WellQuoted u.line u.quoted ↔ '"' ∉ u.label :=
  ⟨fun well inLabel => u.not_wellQuoted inLabel well, u.wellQuoted⟩

end UnquotedHeader

theorem quoteLabelled_ne_of_hasQuotedLabel (quoted : HasQuotedLabel line) :
    quoteLabelled line ≠ line := by
  obtain ⟨h, title, pad, inner, after, is, has, -⟩ := quoted
  exact quoteLabelled_ne_iff.mpr ⟨h, title, pad, inner, after, is, has⟩

/-- A header can be read in one way. -/
theorem hasQuotedLabel_iff (is : h.IsOf line) (has : h.HasLabel title pad inner after) :
    HasQuotedLabel line ↔ '"' ∈ inner := by
  constructor
  · rintro ⟨k, title', pad', inner', after', other, has', quoted⟩
    obtain rfl : h = k := Option.some.inj (is.ofLine?.symm.trans other.ofLine?)
    have same := has.parenthetical?.symm.trans has'.parenthetical?
    simp only [Option.some.injEq, Prod.mk.injEq] at same
    have inLabel : '"' ∈ pad ++ '(' :: (inner ++ [')']) := by
      rw [same.2.1]
      simp [quoted]
    have notPad : '"' ∉ pad := notMem_of_blank has.gap rfl
    simpa [notPad] using inLabel
  · exact fun quoted => ⟨h, title, pad, inner, after, is, has, quoted⟩

theorem quoteIfNeeded_of_hasLabel (is : h.IsOf line) (has : h.HasLabel title pad inner after) :
    quoteIfNeeded line = quoteLabelled line := by
  rw [quoteIfNeeded_eq, quoteLabelled_of_header is.ofLine? has]
  exact quoteBare_of_quote (is.withTitle _ _) rfl

/-- A line that a first attempt changes comes out well quoted, unless there is a quote in its
parenthetical. -/
theorem wellQuoted_quoteIfNeeded_iff (changed : quoteIfNeeded line ≠ line) :
    WellQuoted line (quoteIfNeeded line) ↔ ¬ HasQuotedLabel line := by
  by_cases labelled : quoteLabelled line = line
  · rw [quoteIfNeeded_eq, labelled] at changed ⊢
    obtain ⟨h, is, unquoted, needs⟩ := quoteBare_ne_iff.mp changed
    obtain ⟨u, rfl, rewritten, none⟩ := exists_quoted_of_bare is unquoted needs
    rw [rewritten, u.wellQuoted_iff, none]
    refine iff_of_true List.not_mem_nil fun quoted => ?_
    exact quoteLabelled_ne_of_hasQuotedLabel quoted labelled
  · obtain ⟨h, title, pad, inner, after, is, has⟩ := quoteLabelled_ne_iff.mp labelled
    obtain ⟨u, rfl, rewritten, label⟩ := exists_quoted_of_hasLabel is has
    have notPad : '"' ∉ pad := notMem_of_blank has.gap rfl
    rw [quoteIfNeeded_of_hasLabel is has, rewritten, u.wellQuoted_iff, hasQuotedLabel_iff is has,
      label]
    simp [notPad]

/-- What a first attempt makes of a line. -/
structure Encloses (line : List Char) : Prop where
  /-- The title of a header gets quotes and loses the blanks around it. -/
  changed : quoteIfNeeded line = line ∨
    ∃ u : UnquotedHeader, u.line = line ∧ quoteIfNeeded line = u.quoted
  badly_iff : quoteIfNeeded line ≠ line ∧ ¬ WellQuoted line (quoteIfNeeded line) ↔
    HasQuotedLabel line

theorem encloses (line : List Char) : Encloses line where
  changed := quotesTitles_quoteIfNeeded.changes line
  badly_iff := by
    constructor
    · rintro ⟨changed, badly⟩
      rw [wellQuoted_quoteIfNeeded_iff changed] at badly
      exact not_not.mp badly
    · intro quoted
      have changed : quoteIfNeeded line ≠ line := by
        obtain ⟨h, title, pad, inner, after, is, has, -⟩ := id quoted
        rw [quoteIfNeeded_of_hasLabel is has]
        exact quoteLabelled_ne_of_hasQuotedLabel quoted
      exact ⟨changed, fun well => (wellQuoted_quoteIfNeeded_iff changed).mp well quoted⟩

/-- In a source for a first attempt every header that changed is well quoted, but those with a quote
in the parenthetical after their title. -/
theorem encloses_normalize (text : List Char) :
    splitBreaks (normalize text) = (splitBreaks (unify text)).map quoteIfNeeded ∧
      ∀ line ∈ splitBreaks (unify text), Encloses line :=
  ⟨(quotesTitles_quoteIfNeeded.rewritesLines normalize_eq).lines text, fun line _ => encloses line⟩

/-- A header with quotes in its parenthetical. -/
def coreHeader : UnquotedHeader where
  indent := []
  gap := [' ']
  title := "Core".toList
  label := " (\"main\")".toList
  tail := []
  inIndent := List.forall_mem_nil _
  inGap := List.forall_mem_singleton.mpr rfl
  spaced := by decide
  titled := by decide
  unquoted := by decide
  ends := .inr ⟨[' '], "\"main\"".toList, rfl, List.forall_mem_singleton.mpr rfl, by decide⟩

/-- They end up in the quotes of the title. -/
theorem not_wellQuoted_core :
    normalize "flowchart TD\nsubgraph Core (\"main\")\nA-->B\nend".toList =
        "flowchart TD\nsubgraph \"Core (\"main\")\"\nA-->B\nend".toList ∧
      ¬ WellQuoted "subgraph Core (\"main\")".toList "subgraph \"Core (\"main\")\"".toList := by
  refine ⟨by decide, ?_⟩
  exact coreHeader.not_wellQuoted (by decide)

/-! ### Semicolons inside of quotes -/

/-- What is neither a blank nor in the keyword stands in the rest of a header. -/
theorem GroupHeader.IsOf.mem_iff {c : Char} (is : h.IsOf line) (visible : isTabOrSpace c = false)
    (other : c ∉ keyword) : c ∈ line ↔ c ∈ h.rest := by
  rw [is.line_eq]
  simp [other, notMem_of_blank is.indent visible, notMem_of_blank is.gap visible]

/-- Without a parenthetical, the whole rest of a header is its title. -/
theorem quoteIfNeeded_of_flat (flat : '(' ∉ line) (changed : quoteIfNeeded line ≠ line) :
    ∃ h : GroupHeader, h.IsOf line ∧ '"' ∉ h.rest ∧ h.rest ≠ [] ∧
      quoteIfNeeded line = h.withTitle (trim h.rest) [] := by
  have bare : quoteLabelled line = line := by
    by_contra labelled
    obtain ⟨h, title, pad, inner, after, is, has⟩ := quoteLabelled_ne_iff.mp labelled
    rw [is.line_eq, has.rest] at flat
    simp at flat
  rw [quoteIfNeeded_eq, bare] at changed ⊢
  obtain ⟨h, is, unquoted, needs⟩ := quoteBare_ne_iff.mp changed
  refine ⟨h, is, unquoted, ?_, quoteBare_of_header is unquoted needs⟩
  intro none
  rw [none] at needs
  cases needs

/-- How the two attempts put the title of a header in quotes. -/
structure QuotedTwice (h : GroupHeader) (line : List Char) : Prop where
  isOf : h.IsOf line
  first : quoteIfNeeded line = h.withTitle (trim h.rest) []
  second : ∀ title tail, h.rest = title ++ tail → ';' ∉ title → FromSemicolon tail →
    forceQuote line = if h.hasTitle title then h.withTitle (trim title) tail else line
  alike_iff : quoteIfNeeded line = forceQuote line ↔ ';' ∉ line
  /-- After a first attempt it is too late. -/
  stays : forceQuote (quoteIfNeeded line) = quoteIfNeeded line

theorem withTitle_ne_of_semicolon {more : List Char} (unquoted : '"' ∉ h.rest)
    (split : h.rest = title ++ ';' :: more) :
    h.withTitle (trim h.rest) [] ≠ h.withTitle (trim title) (';' :: more) := by
  intro same
  have inTitle : '"' ∉ trim title := by
    intro member
    rw [split] at unquoted
    exact unquoted (List.mem_append_left _ ((trim_sublist _).subset member))
  have inRest : '"' ∉ trim h.rest := fun member => unquoted ((trim_sublist _).subset member)
  have quoted : trim h.rest ++ ['"'] = trim title ++ '"' :: ';' :: more := by
    simpa [GroupHeader.withTitle] using same
  cases eq_of_append_quote inRest inTitle quoted

theorem forceQuote_of_unquoted (is : h.IsOf line) (unquoted : '"' ∉ h.rest)
    (split : h.rest = title ++ tail) (other : ';' ∉ title) (ends : FromSemicolon tail) :
    forceQuote line = if h.hasTitle title then h.withTitle (trim title) tail else line := by
  have inTitle : '"' ∉ title := by
    intro member
    rw [split] at unquoted
    exact unquoted (List.mem_append_left tail member)
  rw [forceQuote_of_header is.ofLine? split other ends]
  by_cases titled : h.hasTitle title = true <;> simp [titled, inTitle]

theorem eq_forceQuote_iff (is : h.IsOf line) (unquoted : '"' ∉ h.rest) (titled : h.rest ≠ []) :
    h.withTitle (trim h.rest) [] = forceQuote line ↔ ';' ∉ line := by
  obtain ⟨title, tail, split, other, ends⟩ := exists_fromSemicolon h.rest
  rw [is.mem_iff rfl (by decide), forceQuote_of_unquoted is unquoted split other ends]
  rcases ends with rfl | ⟨more, rfl⟩
  · -- The title reaches to the line end either way.
    rw [List.append_nil] at split
    have all : h.hasTitle title = true := hasTitle_iff.mpr (.inl (split ▸ titled))
    rw [if_pos all, split]
    exact iff_of_true rfl other
  · have semicolon : ';' ∈ h.rest := by simp [split]
    refine iff_of_false (fun same => ?_) (not_not.mpr semicolon)
    split_ifs at same
    · exact withTitle_ne_of_semicolon unquoted split same
    · exact is.withTitle_ne (fun quote => unquoted (List.mem_of_mem_head? quote)) _ _ same

/-- The two attempts quote a header without parentheses alike, unless it has a semicolon.  A second
attempt leaves that outside of the quotes, a first one does not. -/
theorem quotings_compared (text : List Char) :
    splitBreaks (normalize text) = (splitBreaks (unify text)).map quoteIfNeeded ∧
      splitBreaks (recover text) = (splitBreaks (unify text)).map forceQuote ∧
      ∀ line ∈ splitBreaks (unify text), '(' ∉ line → quoteIfNeeded line ≠ line →
        '"' ∉ line ∧ ∃ h : GroupHeader, QuotedTwice h line := by
  refine ⟨(quotesTitles_quoteIfNeeded.rewritesLines normalize_eq).lines text,
    (quotesTitles_forceQuote.rewritesLines recover_eq).lines text, ?_⟩
  intro line _ flat changed
  obtain ⟨h, is, unquoted, titled, first⟩ := quoteIfNeeded_of_flat flat changed
  refine ⟨mt (is.mem_iff rfl (by decide)).mp unquoted, h, ?_⟩
  exact
    { isOf := is
      first
      second := fun title tail => forceQuote_of_unquoted is unquoted
      alike_iff := by
        rw [first]
        exact eq_forceQuote_iff is unquoted titled
      stays := by
        rw [first]
        exact forceQuote_of_quote (is.withTitle _ _) rfl }

/-- A semicolon after a title of two words. -/
theorem not_alike_semicolon :
    normalize "flowchart TD\nsubgraph Api Layer;\nA-->B\nend".toList =
        "flowchart TD\nsubgraph \"Api Layer;\"\nA-->B\nend".toList ∧
      recover "flowchart TD\nsubgraph Api Layer;\nA-->B\nend".toList =
        "flowchart TD\nsubgraph \"Api Layer\";\nA-->B\nend".toList ∧
      quoteIfNeeded "subgraph Api Layer;".toList ≠ forceQuote "subgraph Api Layer;".toList := by
  decide

end CatalogueViewer.Diagram
