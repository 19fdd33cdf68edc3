import CatalogueViewer.Proofs.Diagram.Headers

/-!
# Titles put in quotes

What the three ways to quote a title have in common.  Each changes nothing but headers with a title
that is not in quotes, and none of them changes such a header twice.
-/

namespace CatalogueViewer.Diagram

open Text GroupHeader

variable {c : Char}

/-- A parenthetical with the blanks before it. -/
def IsParenthetical (label : List Char) : Prop :=
  ∃ pad inner, label = pad ++ '(' :: (inner ++ [')']) ∧
    (∀ c ∈ pad, isTabOrSpace c = true) ∧ ')' ∉ inner

/-- A header whose title is not in quotes.  The title reaches to the line end, to a semicolon or to
a parenthetical. -/
structure UnquotedHeader where
  indent : List Char
  gap : List Char
  /-- The title with the blanks around it. -/
  title : List Char
  /-- The parenthetical that belongs to the title, if there is one. -/
  label : List Char
  tail : List Char
  inIndent : ∀ c ∈ indent, isTabOrSpace c = true
  inGap : ∀ c ∈ gap, isTabOrSpace c = true
  spaced : gap ≠ []
  titled : title ≠ []
  unquoted : '"' ∉ title
  ends : label = [] ∧ FromSemicolon tail ∨ IsParenthetical label

namespace UnquotedHeader

def line (u : UnquotedHeader) : List Char :=
  u.indent ++ (keyword ++ (u.gap ++ (u.title ++ (u.label ++ u.tail))))

/-- The line with its title in quotes. -/
def quoted (u : UnquotedHeader) : List Char :=
  u.indent ++ (keyword ++ ' ' :: '"' :: (trim u.title ++ (u.label ++ '"' :: u.tail)))

variable {u : UnquotedHeader}

theorem exists_isOf_line (u : UnquotedHeader) : ∃ h : GroupHeader, h.IsOf u.line :=
  ⟨_, isOf_of_ofLine? (ofLine?_append u.inIndent u.inGap u.spaced _)⟩

theorem exists_isOf_quoted (u : UnquotedHeader) :
    ∃ h : GroupHeader, h.IsOf u.quoted ∧ h.rest.head? = some '"' := by
  obtain ⟨h, is⟩ := u.exists_isOf_line
  refine ⟨⟨u.indent, [' '], '"' :: (trim u.title ++ (u.label ++ '"' :: u.tail))⟩, ?_, rfl⟩
  exact ⟨u.inIndent, by simp [isTabOrSpace], List.cons_ne_nil _ _, by simp [isTabOrSpace], rfl⟩

theorem count_quoted (u : UnquotedHeader) : u.quoted.count '"' = u.line.count '"' + 2 := by
  have gap : u.gap.count '"' = 0 :=
    List.count_eq_zero.mpr fun member => by cases u.inGap _ member
  have title : u.title.count '"' = 0 := List.count_eq_zero.mpr u.unquoted
  have trimmed : (trim u.title).count '"' = 0 :=
    List.count_eq_zero.mpr fun member => u.unquoted ((trim_sublist _).subset member)
  simp only [quoted, line, List.count_append, List.count_cons, gap, title, trimmed]
  simp
  omega

theorem quoted_ne_line (u : UnquotedHeader) : u.quoted ≠ u.line := by
  intro same
  have more := u.count_quoted
  rw [same] at more
  omega

theorem mem_quoted (member : c ∈ u.quoted) : c ∈ u.line ∨ c = ' ' ∨ c = '"' := by
  have trimmed : c ∈ trim u.title → c ∈ u.title := fun inside => (trim_sublist _).subset inside
  simp only [quoted, line, List.mem_append, List.mem_cons] at member ⊢
  tauto

theorem inLine_quoted (inLine : '\n' ∉ u.line) : '\n' ∉ u.quoted := by
  intro member
  rcases mem_quoted member with inside | space | quote
  · exact inLine inside
  · cases space
  · cases quote

theorem getLast?_quoted (u : UnquotedHeader) :
    u.quoted.getLast? = some '"' ∨ u.quoted.getLast? = u.line.getLast? := by
  by_cases empty : u.tail = []
  · refine .inl (List.getLast?_eq_some_iff.mpr ⟨u.indent ++ (keyword ++ ' ' :: '"' ::
      (trim u.title ++ u.label)), ?_⟩)
    simp [quoted, empty]
  · obtain ⟨c, last⟩ := Option.ne_none_iff_exists'.mp (mt List.getLast?_eq_none_iff.mp empty)
    exact .inr (by simp [quoted, line, List.getLast?_append, List.getLast?_cons, last])

theorem head?_quoted (start : u.line.head? = some c) (visible : isBlank c = false) :
    u.quoted.head? = some c := by
  cases indent : u.indent with
  | nil =>
    rw [line, indent, keyword_eq] at start
    rw [quoted, indent, keyword_eq]
    exact start
  | cons d more =>
    rw [line, indent] at start
    cases start
    rw [isBlank_of_isTabOrSpace (u.inIndent c (by simp [indent]))] at visible
    cases visible

end UnquotedHeader

/-- A function on lines that puts titles in quotes. -/
structure QuotesTitles (f : List Char → List Char) : Prop where
  changes : ∀ line, f line = line ∨ ∃ u : UnquotedHeader, u.line = line ∧ f line = u.quoted
  keeps : ∀ h : GroupHeader, ∀ line, h.IsOf line → h.rest.head? = some '"' → f line = line
  /-- Where a carriage return follows, the title gets its quotes as well. -/
  returns : ∀ line, f line ≠ line → f (line ++ ['\r']) ≠ line ++ ['\r']

namespace QuotesTitles

variable {f g : List Char → List Char} {line : List Char}

theorem quoted (quotes : QuotesTitles f) (u : UnquotedHeader) : f u.quoted = u.quoted := by
  obtain ⟨h, is, start⟩ := u.exists_isOf_quoted
  exact quotes.keeps h _ is start

theorem again (quotes : QuotesTitles f) (line : List Char) : f (f line) = f line := by
  rcases quotes.changes line with same | ⟨u, -, changed⟩
  · rw [same, same]
  · rw [changed, quotes.quoted]

theorem other (quotes : QuotesTitles f) (other : ∀ h : GroupHeader, ¬ h.IsOf line) :
    f line = line := by
  rcases quotes.changes line with same | ⟨u, rfl, -⟩
  · exact same
  · obtain ⟨h, is⟩ := u.exists_isOf_line
    exact absurd is (other h)

theorem of_ne (quotes : QuotesTitles f) (changed : f line ≠ line) :
    ∃ u : UnquotedHeader, u.line = line ∧ f line = u.quoted :=
  (quotes.changes line).resolve_left changed

theorem count (quotes : QuotesTitles f) (changed : f line ≠ line) :
    (f line).count '"' = line.count '"' + 2 := by
  obtain ⟨u, rfl, rewritten⟩ := quotes.of_ne changed
  rw [rewritten, u.count_quoted]

theorem inLine (quotes : QuotesTitles f) (inLine : '\n' ∉ line) : '\n' ∉ f line := by
  rcases quotes.changes line with same | ⟨u, rfl, changed⟩
  · rwa [same]
  · rw [changed]
    exact UnquotedHeader.inLine_quoted inLine

theorem comp (first : QuotesTitles f) (second : QuotesTitles g) : QuotesTitles (g ∘ f) where
  changes line := by
    rcases first.changes line with same | ⟨u, start, changed⟩
    · rw [Function.comp_apply, same]
      exact second.changes line
    · exact .inr ⟨u, start, by rw [Function.comp_apply, changed, second.quoted]⟩
  keeps h line is start := by
    rw [Function.comp_apply, first.keeps h line is start, second.keeps h line is start]
  returns line changed := by
    by_cases same : f (line ++ ['\r']) = line ++ ['\r']
    · have before : f line = line := by
        by_contra other
        exact first.returns line other same
      rw [Function.comp_apply, before] at changed
      rw [Function.comp_apply, same]
      exact second.returns line changed
    · obtain ⟨u, start, rewritten⟩ := first.of_ne same
      rw [Function.comp_apply, rewritten, second.quoted, ← start]
      exact u.quoted_ne_line

end QuotesTitles

/-! ### The ways to quote a title -/

variable {h : GroupHeader} {line : List Char}

theorem exists_quoted_of_hasLabel {title pad inner after : List Char} (is : h.IsOf line)
    (has : h.HasLabel title pad inner after) : ∃ u : UnquotedHeader, u.line = line ∧
      quoteLabelled line = u.quoted ∧ u.label = pad ++ '(' :: (inner ++ [')']) := by
  obtain ⟨gap, part, split, inGap, spaced, titled, inPart, trimmed⟩ :=
    is.exists_title has.rest (has.hasTitle is)
  have unquoted : '"' ∉ part := by
    intro member
    rcases inPart _ member with inTitle | blank
    · cases has.plain _ inTitle
    · cases blank
  let u : UnquotedHeader := ⟨h.indent, gap, part, pad ++ '(' :: (inner ++ [')']), after,
    is.indent, inGap, spaced, titled, unquoted, .inr ⟨pad, inner, rfl, has.gap, has.closed⟩⟩
  refine ⟨u, Eq.trans ?_ split.symm, ?_, rfl⟩
  · simp [UnquotedHeader.line, u]
  · rw [quoteLabelled_of_header is.ofLine? has]
    simp [UnquotedHeader.quoted, u, withTitle, trimmed]

theorem quoteBare_of_header (is : h.IsOf line) (unquoted : '"' ∉ h.rest)
    (needs : needsQuotes (trim h.rest) = true) :
    quoteBare line = h.withTitle (trim h.rest) [] := by
  rw [quoteBare, is.ofLine?]
  dsimp only
  rw [bareTitle?_of_unquoted unquoted, if_pos needs]

theorem exists_quoted_of_bare (is : h.IsOf line) (unquoted : '"' ∉ h.rest)
    (needs : needsQuotes (trim h.rest) = true) :
    ∃ u : UnquotedHeader, u.line = line ∧ quoteBare line = u.quoted ∧ u.label = [] := by
  have titled : h.rest ≠ [] := by
    intro none
    rw [none] at needs
    cases needs
  let u : UnquotedHeader := ⟨h.indent, h.gap, h.rest, [], [], is.indent, is.gap, is.spaced,
    titled, unquoted, .inl ⟨rfl, .inl rfl⟩⟩
  refine ⟨u, Eq.trans ?_ is.line_eq.symm, ?_, rfl⟩
  · simp [UnquotedHeader.line, u]
  · rw [quoteBare_of_header is unquoted needs]
    simp [UnquotedHeader.quoted, u, withTitle]

theorem quotesTitles_quoteLabelled : QuotesTitles quoteLabelled where
  changes line := by
    by_cases same : quoteLabelled line = line
    · exact .inl same
    obtain ⟨h, title, pad, inner, after, is, has⟩ := quoteLabelled_ne_iff.mp same
    obtain ⟨u, start, changed, -⟩ := exists_quoted_of_hasLabel is has
    exact .inr ⟨u, start, changed⟩
  keeps _ _ is start := quoteLabelled_of_quote is start
  returns line changed := by
    obtain ⟨h, title, pad, inner, after, is, has⟩ := quoteLabelled_ne_iff.mp changed
    refine quoteLabelled_ne_iff.mpr ⟨_, title, pad, inner, after ++ ['\r'], is.append_return, ?_⟩
    exact ⟨by simp [has.rest], has.plain, has.visible, has.gap, has.closed, has.titled⟩

theorem quotesTitles_quoteBare : QuotesTitles quoteBare where
  changes line := by
    by_cases same : quoteBare line = line
    · exact .inl same
    obtain ⟨h, is, unquoted, needs⟩ := quoteBare_ne_iff.mp same
    obtain ⟨u, start, changed, -⟩ := exists_quoted_of_bare is unquoted needs
    exact .inr ⟨u, start, changed⟩
  keeps _ _ is start := quoteBare_of_quote is start
  returns line changed := by
    obtain ⟨h, is, unquoted, needs⟩ := quoteBare_ne_iff.mp changed
    refine quoteBare_ne_iff.mpr ⟨_, is.append_return, by simpa using unquoted, ?_⟩
    rwa [trim_append_blank rfl]

theorem quotesTitles_forceQuote : QuotesTitles forceQuote where
  changes line := by
    by_cases same : forceQuote line = line
    · exact .inl same
    obtain ⟨h, title, tail, is, split, other, ends, unquoted, titled⟩ := forceQuote_ne_iff.mp same
    obtain ⟨gap, part, whole, inGap, spaced, some, inPart, trimmed⟩ := is.exists_title split titled
    have unquotedPart : '"' ∉ part := by
      intro member
      rcases inPart _ member with inTitle | blank
      · exact unquoted inTitle
      · cases blank
    let u : UnquotedHeader := ⟨h.indent, gap, part, [], tail, is.indent, inGap, spaced, some,
      unquotedPart, .inl ⟨rfl, ends⟩⟩
    refine .inr ⟨u, whole.symm, ?_⟩
    rw [forceQuote_of_header is.ofLine? split other ends, if_neg (by simp [unquoted, titled])]
    simp [UnquotedHeader.quoted, u, withTitle, trimmed]
  keeps _ _ is start := forceQuote_of_quote is start
  returns line changed := by
    obtain ⟨h, title, tail, is, split, other, ends, unquoted, titled⟩ := forceQuote_ne_iff.mp changed
    -- The return belongs to the title, unless a semicolon stands before it.
    rcases ends with rfl | ⟨more, rfl⟩
    · refine forceQuote_ne_iff.mpr ⟨_, title ++ ['\r'], [], is.append_return, by simpa using split,
        by simpa using other, .inl rfl, by simpa using unquoted, ?_⟩
      exact hasTitle_iff.mpr (.inl (by simp))
    · refine forceQuote_ne_iff.mpr ⟨_, title, ';' :: (more ++ ['\r']), is.append_return,
        by simp [split], other, .inr ⟨_, rfl⟩, unquoted, hasTitle_iff.mpr (hasTitle_iff.mp titled)⟩

theorem quotesTitles_quoteIfNeeded : QuotesTitles quoteIfNeeded := by
  rw [show quoteIfNeeded = quoteBare ∘ quoteLabelled from funext quoteIfNeeded_eq]
  exact quotesTitles_quoteLabelled.comp quotesTitles_quoteBare

end CatalogueViewer.Diagram
