import CatalogueViewer.Diagram.HeaderRules
import CatalogueViewer.Proofs.Diagram.Headers
import CatalogueViewer.Proofs.Text.Rewriting

/-!
# What the header rules do

Each rule comes to a function on lines: `rewriteLine_labelledRule`, `rewriteLine_bareRule` and
`rewriteLine_forcingRule`.  Most headers can be read in many ways.  Only for a title with a
parenthetical it matters which reading is preferred; the other titles are the same but for blanks
around them.
-/

namespace CatalogueViewer.Diagram

open Text GroupHeader

namespace HeaderPiece

variable {inTitle : Char → Bool} {rest : List (Shape HeaderPiece)} {r y : Reading HeaderPiece}
  {fresh : Bool} {s line : List Char}

/-- What a header starts with, up to the end of its title. -/
structure Starts (inTitle : Char → Bool) (indent gap title : List Char) : Prop where
  inIndent : ∀ c ∈ indent, isTabOrSpace c = true
  inGap : ∀ c ∈ gap, isTabOrSpace c = true
  spaced : gap ≠ []
  fits : ∀ c ∈ title, inTitle c = true
  titled : title ≠ []

theorem title_ne_nil (free : (Shape.inOrder rest).isFree = true) {title after : List Char}
    (titled : title ≠ []) (fits : ∀ c ∈ title, inTitle c = true)
    (next : (Shape.inOrder rest).readings false after ≠ []) :
    (Shape.inOrder (.piece .title (.fewestOf inTitle) :: rest)).readings false
      (title ++ after) ≠ [] :=
  Shape.cons_ne_nil free (Shape.mem_piece (Shape.mem_fewestOf titled fits after)) next

theorem header_ne_nil (free : (Shape.inOrder rest).isFree = true)
    {indent gap title after : List Char} (starts : Starts inTitle indent gap title)
    (next : (Shape.inOrder rest).readings false after ≠ []) :
    (header inTitle rest).readings true
      (indent ++ (keyword ++ (gap ++ (title ++ after)))) ≠ [] := by
  unfold header
  generalize keyword = word
  have freeTitle := Shape.isFree_cons (x := .piece .title (.fewestOf inTitle)) rfl free
  have freeGap := Shape.isFree_cons (x := .mostOf isTabOrSpace) rfl freeTitle
  have freeWord := Shape.isFree_cons (Shape.isFree_word word) freeGap
  have freeIndent := Shape.isFree_cons (x := .piece .indent (.most isTabOrSpace)) rfl freeWord
  refine Shape.cons_ne_nil freeIndent (Shape.mem_lineStart_iff.mpr rfl) ?_
  refine Shape.cons_ne_nil freeWord (Shape.mem_piece (Shape.mem_most starts.inIndent _)) ?_
  refine Shape.cons_ne_nil freeGap (Shape.mem_word word _) ?_
  refine Shape.cons_ne_nil freeTitle (Shape.mem_mostOf starts.spaced starts.inGap _) ?_
  exact title_ne_nil free starts.titled starts.fits next

/-- A title is shorter, or the gap before it longer, only where the header could not be read on. -/
theorem first_header (free : (Shape.inOrder rest).isFree = true)
    (is : Shape.First (header inTitle rest) true s r) :
    ∃ indent gap title after y, Starts inTitle indent gap title ∧
      s = indent ++ (keyword ++ (gap ++ (title ++ after))) ∧
      r = ⟨⟨indent ++ (keyword ++ (gap ++ (title ++ y.text))),
        (.indent, indent) :: (.title, title) :: y.pieces⟩, y.rest⟩ ∧
      Shape.First (Shape.inOrder rest) false after y ∧
      (∀ title' after', title ++ after = title' ++ after' → title' ≠ [] →
        (∀ c ∈ title', inTitle c = true) → title'.length < title.length →
        (Shape.inOrder rest).readings false after' = []) ∧
      ∀ gap' title' after', gap ++ (title ++ after) = gap' ++ (title' ++ after') →
        (∀ c ∈ gap', isTabOrSpace c = true) → gap.length < gap'.length → title' ≠ [] →
        (∀ c ∈ title', inTitle c = true) → (Shape.inOrder rest).readings false after' = [] := by
  unfold header at is
  -- The letters of the word do not matter.
  generalize keyword = word at is ⊢
  have freeTitle := Shape.isFree_cons (x := .piece title (.fewestOf inTitle)) rfl free
  have freeGap := Shape.isFree_cons (x := .mostOf isTabOrSpace) rfl freeTitle
  have freeWord := Shape.isFree_cons (Shape.isFree_word word) freeGap
  have freeIndent := Shape.isFree_cons (x := .piece indent (.most isTabOrSpace)) rfl freeWord
  obtain ⟨_, start, _, fromIndent, rfl⟩ := Shape.First.cons freeIndent is
  obtain rfl := Shape.mem_lineStart_iff.mp start
  obtain ⟨_, inside, _, fromWord, rfl⟩ := Shape.First.cons freeWord fromIndent
  obtain ⟨⟨⟨indent, _⟩, _⟩, run, rfl⟩ := Shape.mem_piece_iff.mp inside
  obtain ⟨rfl, rfl, inIndent⟩ := Shape.mem_most_iff.mp run
  obtain ⟨_, inWord, _, fromGap, rfl⟩ := Shape.First.cons freeGap fromWord
  obtain ⟨_, rfl, rfl⟩ := Shape.mem_word_iff.mp inWord
  obtain ⟨gap, _, _, rfl, spaced, inGap, rfl, fromTitle, longest⟩ :=
    Shape.First.mostOf_cons freeTitle fromGap
  obtain ⟨title, after, y, rfl, titled, fits, rfl, next, shortest⟩ :=
    Shape.First.fewestOf_cons free fromTitle
  refine ⟨indent, gap, title, after, y, ⟨inIndent, inGap, spaced, fits, titled⟩, rfl, rfl, next,
    shortest, fun gap' title' after' split inGap longer titled fits => ?_⟩
  by_contra further
  exact title_ne_nil free titled fits further (longest gap' (title' ++ after') split inGap longer)

/-! ### What follows a title -/

theorem parenthetical_ne_nil {pad inner : List Char} (inPad : ∀ c ∈ pad, isTabOrSpace c = true)
    (inInner : ∀ c ∈ inner, (c != ')' && c != '\n') = true) (after : List Char) :
    (Shape.inOrder parenthetical).readings false (pad ++ '(' :: (inner ++ ')' :: after)) ≠ [] := by
  refine Shape.inOrder_singleton_ne_nil (Shape.piece_ne_nil ?_)
  refine Shape.cons_ne_nil rfl (Shape.mem_most inPad _) ?_
  refine Shape.cons_ne_nil rfl (Shape.mem_char '(' _) ?_
  refine Shape.cons_ne_nil rfl (Shape.mem_most inInner _) ?_
  exact Shape.inOrder_singleton_ne_nil (List.ne_nil_of_mem (Shape.mem_char ')' after))

theorem mem_parenthetical (member : r ∈ (Shape.inOrder parenthetical).readings false s) :
    ∃ pad inner after, s = pad ++ '(' :: (inner ++ ')' :: after) ∧
      (∀ c ∈ pad, isTabOrSpace c = true) ∧ (∀ c ∈ inner, (c != ')' && c != '\n') = true) ∧
      r = ⟨⟨pad ++ '(' :: (inner ++ [')']), [(.label, pad ++ '(' :: (inner ++ [')']))]⟩, after⟩ := by
  obtain ⟨_, inLabel, y, none, rfl⟩ := (Shape.mem_cons_iff rfl).mp member
  obtain rfl := Shape.mem_inOrder_nil_iff.mp none
  obtain ⟨_, inside, rfl⟩ := Shape.mem_piece_iff.mp inLabel
  obtain ⟨⟨⟨pad, _⟩, _⟩, pads, _, fromOpening, rfl⟩ := (Shape.mem_cons_iff rfl).mp inside
  obtain ⟨rfl, rfl, inPad⟩ := Shape.mem_most_iff.mp pads
  obtain ⟨_, opening, _, fromInner, rfl⟩ := (Shape.mem_cons_iff rfl).mp fromOpening
  obtain ⟨_, rfl, rfl⟩ := Shape.mem_char_iff.mp opening
  obtain ⟨⟨⟨inner, _⟩, _⟩, inners, _, fromClosing, rfl⟩ := (Shape.mem_cons_iff rfl).mp fromInner
  obtain ⟨rfl, rfl, inInner⟩ := Shape.mem_most_iff.mp inners
  obtain ⟨_, closing, y, last, rfl⟩ := (Shape.mem_cons_iff rfl).mp fromClosing
  obtain rfl := Shape.mem_inOrder_nil_iff.mp last
  obtain ⟨after, rfl, rfl⟩ := Shape.mem_char_iff.mp closing
  refine ⟨pad, inner, after, rfl, inPad, inInner, ?_⟩
  simp [Reading.followedBy]

theorem toLineEnd_ne_nil {pad : List Char} (inPad : ∀ c ∈ pad, isTabOrSpace c = true) :
    (Shape.inOrder toLineEnd).readings false pad ≠ [] := by
  rw [← List.append_nil pad]
  refine Shape.cons_ne_nil rfl (Shape.mem_most inPad []) ?_
  exact Shape.inOrder_singleton_ne_nil (List.ne_nil_of_mem (Shape.mem_lineEnd_iff.mpr ⟨rfl, rfl⟩))

/-- Nothing of the line is left. -/
theorem mem_lineEnd (inLine : '\n' ∉ s)
    (member : r ∈ (Shape.inOrder [Shape.lineEnd]).readings false s) :
    s = [] ∧ r = ⟨⟨[], []⟩, []⟩ := by
  obtain ⟨_, here, _, none, rfl⟩ := (Shape.mem_cons_iff rfl).mp member
  obtain ⟨ends, rfl⟩ := Shape.mem_lineEnd_iff.mp here
  obtain rfl := Shape.mem_inOrder_nil_iff.mp none
  cases s with
  | nil => exact ⟨rfl, rfl⟩
  | cons c s =>
    obtain rfl : c = '\n' := by simpa using ends
    exact absurd List.mem_cons_self inLine

theorem mem_toLineEnd (inLine : '\n' ∉ s)
    (member : r ∈ (Shape.inOrder toLineEnd).readings false s) :
    (∀ c ∈ s, isTabOrSpace c = true) ∧ r = ⟨⟨s, []⟩, []⟩ := by
  obtain ⟨⟨⟨pad, _⟩, rest⟩, pads, _, ends, rfl⟩ := (Shape.mem_cons_iff rfl).mp member
  obtain ⟨rfl, rfl, inPad⟩ := Shape.mem_most_iff.mp pads
  obtain ⟨none, rfl⟩ := mem_lineEnd (fun inside => inLine (List.mem_append_right pad inside)) ends
  dsimp only at none
  subst none
  rw [List.append_nil]
  exact ⟨inPad, by simp [Reading.followedBy]⟩

theorem mem_fromSemicolon {more : List Char} (inLine : '\n' ∉ more) :
    (⟨⟨';' :: more, []⟩, []⟩ : Reading HeaderPiece) ∈
      (Shape.inOrder [.char ';', .most (· != '\n')]).readings false (';' :: more) := by
  have others : ∀ c ∈ more, (c != '\n') = true := by
    intro c member
    rw [bne_iff_ne]
    rintro rfl
    exact inLine member
  have run : (⟨⟨more, []⟩, []⟩ : Reading HeaderPiece) ∈
      (Shape.most (· != '\n')).readings false more :=
    Shape.mem_most_iff.mpr ⟨rfl, (List.append_nil more).symm, others⟩
  refine (Shape.mem_cons_iff rfl).mpr ⟨_, Shape.mem_char ';' more, ⟨⟨more, []⟩, []⟩, ?_, rfl⟩
  refine (Shape.mem_cons_iff rfl).mpr ⟨_, run, _, Shape.mem_inOrder_nil_iff.mpr rfl, ?_⟩
  simp [Reading.followedBy]

theorem toSemicolon_ne_nil {pad end_ : List Char} (inPad : ∀ c ∈ pad, isTabOrSpace c = true)
    (inLine : '\n' ∉ end_) (ends : FromSemicolon end_) :
    (Shape.inOrder toSemicolon).readings false (pad ++ end_) ≠ [] := by
  refine Shape.cons_ne_nil rfl (Shape.mem_most inPad _) ?_
  have atEnd : (Shape.inOrder [(.lineEnd : Shape HeaderPiece)]).readings false [] ≠ [] :=
    Shape.inOrder_singleton_ne_nil (List.ne_nil_of_mem (Shape.mem_lineEnd_iff.mpr ⟨rfl, rfl⟩))
  rcases ends with rfl | ⟨more, rfl⟩
  · exact Shape.cons_ne_nil rfl (Shape.mem_optional_iff.mpr (.inr rfl)) atEnd
  · have tails := mem_fromSemicolon fun inside => inLine (.tail ';' inside)
    exact Shape.cons_ne_nil rfl (Shape.mem_optional_iff.mpr (.inl (Shape.mem_piece tails))) atEnd

theorem mem_toSemicolon (inLine : '\n' ∉ s)
    (member : r ∈ (Shape.inOrder toSemicolon).readings false s) :
    ∃ pad end_, s = pad ++ end_ ∧ (∀ c ∈ pad, isTabOrSpace c = true) ∧ FromSemicolon end_ ∧
      (r.pieces.lookup .tail).getD [] = end_ ∧ r.rest = [] := by
  obtain ⟨⟨⟨pad, _⟩, rest⟩, pads, _, further, rfl⟩ := (Shape.mem_cons_iff rfl).mp member
  obtain ⟨rfl, rfl, inPad⟩ := Shape.mem_most_iff.mp pads
  dsimp only at inLine further inPad ⊢
  have inRest : '\n' ∉ rest := fun inside => inLine (List.mem_append_right pad inside)
  obtain ⟨z, there, _, ends, rfl⟩ := (Shape.mem_cons_iff rfl).mp further
  refine ⟨pad, rest, rfl, inPad, ?_⟩
  rcases Shape.mem_optional_iff.mp there with tails | rfl
  · obtain ⟨_, inside, rfl⟩ := Shape.mem_piece_iff.mp tails
    obtain ⟨_, semicolon, _, fromMore, rfl⟩ := (Shape.mem_cons_iff rfl).mp inside
    obtain ⟨_, rfl, rfl⟩ := Shape.mem_char_iff.mp semicolon
    obtain ⟨⟨⟨more, _⟩, left⟩, mores, y, none, rfl⟩ := (Shape.mem_cons_iff rfl).mp fromMore
    obtain rfl := Shape.mem_inOrder_nil_iff.mp none
    obtain ⟨rfl, rfl, -⟩ := Shape.mem_most_iff.mp mores
    obtain ⟨rfl, rfl⟩ := mem_lineEnd (fun inside => inRest (by simpa using .inr inside)) ends
    simp [FromSemicolon, Reading.followedBy]
  · obtain ⟨rfl, rfl⟩ := mem_lineEnd inRest ends
    simp [FromSemicolon, Reading.followedBy]

/-! ### The rules on one line -/

/-- A header can be read if what follows its title can. -/
theorem header_ne_nil_of_isOf (free : (Shape.inOrder rest).isFree = true)
    (space : inTitle ' ' = true) (tab : inTitle '\t' = true) {h : GroupHeader}
    {title after : List Char} (is : h.IsOf line) (split : h.rest = title ++ after)
    (fits : ∀ c ∈ title, inTitle c = true) (titled : h.hasTitle title = true)
    (next : (Shape.inOrder rest).readings false after ≠ []) :
    (header inTitle rest).readings true line ≠ [] := by
  obtain ⟨gap, part, same, inGap, spaced, some, inPart, -⟩ := is.exists_title split titled
  have partFits : ∀ c ∈ part, inTitle c = true := by
    intro c member
    rcases inPart c member with inside | blank
    · exact fits c inside
    · rcases Bool.or_eq_true_iff.mp blank with same | same <;> rwa [beq_iff_eq.mp same]
  rw [same]
  exact header_ne_nil free ⟨is.indent, inGap, spaced, partFits, some⟩ next

/-! A title with a parenthetical. -/

theorem rewrite_labelledRule (text indent title label : List Char) :
    labelledRule.rewrite ⟨text, [(.indent, indent), (.title, title), (.label, label)]⟩ =
      indent ++ keyword ++ ' ' :: '"' :: (trim title ++ label ++ '"' :: []) := rfl

theorem readings_labelledRule (inLine : '\n' ∉ line) (changed : quoteLabelled line ≠ line) :
    labelledRule.shape.readings true line ≠ [] := by
  obtain ⟨h, title, pad, inner, after, is, has⟩ := quoteLabelled_ne_iff.mp changed
  rw [is.line_eq, has.rest] at inLine
  simp only [List.mem_append, List.mem_cons, not_or] at inLine
  obtain ⟨-, -, -, inTitle, -, -, inInner, -⟩ := inLine
  have fits : ∀ c ∈ title, (c != '"' && c != '\n' && c != '(' && c != '[') = true := by
    intro c member
    have plain := has.plain c member
    simp only [isPlain, Bool.and_eq_true] at plain ⊢
    exact ⟨⟨⟨plain.1.1, bne_iff_ne.mpr (ne_of_mem_of_not_mem member inTitle)⟩, plain.1.2⟩, plain.2⟩
  have closed : ∀ c ∈ inner, (c != ')' && c != '\n') = true := by
    intro c member
    simp [ne_of_mem_of_not_mem member has.closed, ne_of_mem_of_not_mem member inInner]
  exact header_ne_nil_of_isOf rfl rfl rfl is has.rest fits (has.hasTitle is)
    (parenthetical_ne_nil has.gap closed after)

/-- A title ends with a visible character, unless the parenthetical leaves it but one blank. -/
theorem visible_or_singleton {title pad inner after : List Char}
    (inPad : ∀ c ∈ pad, isTabOrSpace c = true)
    (inInner : ∀ c ∈ inner, (c != ')' && c != '\n') = true)
    (titled : title ≠ []) (fits : ∀ c ∈ title, inTitle c = true)
    (shortest : ∀ title' after', title ++ (pad ++ '(' :: (inner ++ ')' :: after)) = title' ++ after' →
      title' ≠ [] → (∀ c ∈ title', inTitle c = true) → title'.length < title.length →
      (Shape.inOrder parenthetical).readings false after' = []) :
    ∃ c, title.getLast? = some c ∧ (isTabOrSpace c = false ∨ title = [c]) := by
  obtain ⟨c, last⟩ := Option.ne_none_iff_exists'.mp (mt List.getLast?_eq_none_iff.mp titled)
  refine ⟨c, last, ?_⟩
  by_contra! hidden
  obtain ⟨blank, several⟩ := hidden
  obtain ⟨front, rfl⟩ := List.getLast?_eq_some_iff.mp last
  have some : front ≠ [] := by
    rintro rfl
    exact several rfl
  have none := shortest front ((c :: pad) ++ '(' :: (inner ++ ')' :: after)) (by simp) some
    (fun d member => fits d (List.mem_append_left _ member)) (by simp)
  refine parenthetical_ne_nil (List.forall_mem_cons.mpr ⟨?_, inPad⟩) inInner after none
  simpa using blank

theorem first_labelledRule (is : Shape.First labelledRule.shape true line r) :
    labelledRule.rewrite r.toPassage ++ r.rest = quoteLabelled line := by
  obtain ⟨indent, gap, title, after, y, starts, rfl, rfl, next, shortest, longest⟩ :=
    first_header rfl is
  obtain ⟨pad, inner, after, rfl, inPad, inInner, rfl⟩ := mem_parenthetical next.mem
  rw [rewrite_labelledRule]
  have closed : ')' ∉ inner := by
    intro member
    have other := inInner _ member
    simp at other
  obtain ⟨c, last, visible⟩ :=
    visible_or_singleton inPad inInner starts.titled starts.fits shortest
  by_cases blank : isTabOrSpace c = true
  · obtain rfl := visible.resolve_left (by simp [blank])
    have alone : pad = [] := by
      -- Any blank before the parenthetical could be the title instead of this one.
      by_contra some
      obtain ⟨d, pad, rfl⟩ := List.exists_cons_of_ne_nil some
      obtain ⟨inPad, later⟩ := List.forall_mem_cons.mp inPad
      refine parenthetical_ne_nil later inInner after (longest (gap ++ [c]) [d] _ (by simp) ?_
        (by simp) (List.cons_ne_nil _ _) ?_)
      · exact List.forall_mem_append.mpr ⟨starts.inGap, List.forall_mem_singleton.mpr blank⟩
      · rw [List.forall_mem_singleton]
        rcases Bool.or_eq_true_iff.mp inPad with same | same <;> rw [beq_iff_eq.mp same] <;> rfl
    subst alone
    have quoted := quoteLabelled_of_blank starts.inIndent starts.inGap starts.spaced blank closed
      after
    refine Eq.trans ?_ quoted.symm
    simp
  · have plain : ∀ c ∈ title, isPlain c = true := by
      intro c member
      have fits := starts.fits c member
      simp only [isPlain, Bool.and_eq_true] at fits ⊢
      exact ⟨⟨fits.1.1.1, fits.1.2⟩, fits.2⟩
    rw [quoteLabelled_of_visible starts.inIndent starts.inGap starts.spaced plain last
      (by simpa using blank) inPad closed]
    simp

theorem rewriteLine_labelledRule (inLine : '\n' ∉ line) :
    labelledRule.rewriteLine line = quoteLabelled line :=
  Rule.rewriteLine_eq (fun _ => first_labelledRule) (readings_labelledRule inLine)

/-! A title to the line end. -/

theorem rewrite_bareRule (text indent title : List Char) (more : List (HeaderPiece × List Char)) :
    bareRule.rewrite ⟨text, (.indent, indent) :: (.title, title) :: more⟩ =
      if needsQuotes (trim title) then
        indent ++ keyword ++ ' ' :: '"' :: (trim title ++ '"' :: [])
      else text := rfl

theorem readings_bareRule (inLine : '\n' ∉ line) (changed : quoteBare line ≠ line) :
    bareRule.shape.readings true line ≠ [] := by
  obtain ⟨h, is, unquoted, needs⟩ := quoteBare_ne_iff.mp changed
  have inRest : '\n' ∉ h.rest := fun inside => inLine (by rw [is.line_eq]; simp [inside])
  have fits : ∀ c ∈ h.rest, (c != '"' && c != '\n') = true := by
    intro c member
    simp [ne_of_mem_of_not_mem member unquoted, ne_of_mem_of_not_mem member inRest]
  have titled : h.rest ≠ [] := by
    intro none
    rw [none] at needs
    cases needs
  exact header_ne_nil_of_isOf rfl rfl rfl is (List.append_nil h.rest).symm fits
    (hasTitle_iff.mpr (.inl titled)) (toLineEnd_ne_nil (by simp))

theorem first_bareRule (inLine : '\n' ∉ line) (is : Shape.First bareRule.shape true line r) :
    bareRule.rewrite r.toPassage ++ r.rest = quoteBare line := by
  obtain ⟨indent, gap, title, pad, y, starts, rfl, rfl, next, -, -⟩ := first_header rfl is
  simp only [List.mem_append, not_or] at inLine
  obtain ⟨inPad, rfl⟩ := mem_toLineEnd inLine.2.2.2.2 next.mem
  have unquoted : '"' ∉ (title ++ pad).dropWhile isTabOrSpace := by
    intro inside
    rcases List.mem_append.mp ((List.dropWhile_sublist _).subset inside) with inTitle | inPads
    · cases starts.fits _ inTitle
    · cases inPad _ inPads
  have same : trim ((title ++ pad).dropWhile isTabOrSpace) = trim title := by
    rw [trim_dropWhile_isTabOrSpace]
    exact trim_append_of_blank fun c member => isBlank_of_isTabOrSpace (inPad c member)
  have bare := bareTitle?_of_unquoted
    (h := ⟨indent, gap ++ (title ++ pad).takeWhile isTabOrSpace, _⟩) unquoted
  dsimp only at bare
  rw [same] at bare
  rw [quoteBare, ofLine?_append starts.inIndent starts.inGap starts.spaced, List.append_nil,
    rewrite_bareRule]
  dsimp only
  rw [bare]
  split <;> rfl

theorem rewriteLine_bareRule (inLine : '\n' ∉ line) : bareRule.rewriteLine line = quoteBare line :=
  Rule.rewriteLine_eq (fun _ => first_bareRule inLine) (readings_bareRule inLine)

/-! A title to the first semicolon. -/

theorem rewrite_forcingRule (text indent title : List Char)
    (more : List (HeaderPiece × List Char)) :
    forcingRule.rewrite ⟨text, (.indent, indent) :: (.title, title) :: more⟩ =
      indent ++ keyword ++ ' ' :: '"' :: (trim title ++ '"' :: (more.lookup .tail).getD []) :=
  rfl

theorem readings_forcingRule (inLine : '\n' ∉ line) (changed : forceQuote line ≠ line) :
    forcingRule.shape.readings true line ≠ [] := by
  obtain ⟨h, title, tail, is, split, other, ends, unquoted, titled⟩ := forceQuote_ne_iff.mp changed
  rw [is.line_eq, split] at inLine
  simp only [List.mem_append, not_or] at inLine
  obtain ⟨-, -, -, inTitle, inTail⟩ := inLine
  have fits : ∀ c ∈ title, (c != '"' && c != '\n' && c != ';') = true := by
    intro c member
    simp [ne_of_mem_of_not_mem member unquoted, ne_of_mem_of_not_mem member inTitle,
      ne_of_mem_of_not_mem member other]
  have next : (Shape.inOrder toSemicolon).readings false ([] ++ tail) ≠ [] :=
    toSemicolon_ne_nil (by simp) inTail ends
  exact header_ne_nil_of_isOf rfl rfl rfl is split fits titled next

theorem first_forcingRule (inLine : '\n' ∉ line) (is : Shape.First forcingRule.shape true line r) :
    forcingRule.rewrite r.toPassage ++ r.rest = forceQuote line := by
  obtain ⟨indent, gap, title, after, y, starts, rfl, rfl, next, -, -⟩ := first_header rfl is
  simp only [List.mem_append, not_or] at inLine
  obtain ⟨pad, tail, rfl, inPad, ends, got, none⟩ := mem_toSemicolon inLine.2.2.2.2 next.mem
  have split : (title ++ (pad ++ tail)).dropWhile isTabOrSpace =
      (title ++ pad).dropWhile isTabOrSpace ++ tail := by
    rw [← List.append_assoc, dropWhile_append_of_head? (ends.head? rfl)]
  have inTitle : ∀ c ∈ (title ++ pad).dropWhile isTabOrSpace,
      (c != '"' && c != '\n' && c != ';') = true := by
    intro c member
    rcases List.mem_append.mp ((List.dropWhile_sublist _).subset member) with inTitle | inPads
    · exact starts.fits c inTitle
    · rcases Bool.or_eq_true_iff.mp (inPad c inPads) with same | same <;>
        rw [beq_iff_eq.mp same] <;> rfl
  have other : ';' ∉ (title ++ pad).dropWhile isTabOrSpace := fun member => by
    cases inTitle _ member
  have unquoted : '"' ∉ (title ++ pad).dropWhile isTabOrSpace := fun member => by
    cases inTitle _ member
  have titled : hasTitle ⟨indent, gap ++ (title ++ (pad ++ tail)).takeWhile isTabOrSpace,
      (title ++ (pad ++ tail)).dropWhile isTabOrSpace⟩
      ((title ++ pad).dropWhile isTabOrSpace) = true := by
    obtain ⟨c, more, split⟩ := List.exists_cons_of_ne_nil starts.titled
    have spaced := List.length_pos_iff.mpr starts.spaced
    rw [hasTitle_iff, split, List.cons_append, List.cons_append]
    by_cases blank : isTabOrSpace c = true
    · rw [List.takeWhile_cons_of_pos blank, List.length_append, List.length_cons]
      exact .inr (by omega)
    · rw [List.dropWhile_cons_of_neg blank]
      exact .inl (List.cons_ne_nil _ _)
  have header := ofLine?_append starts.inIndent starts.inGap starts.spaced (title ++ (pad ++ tail))
  rw [forceQuote_of_header header split other ends, if_neg (by simp [unquoted, titled]),
    trim_dropWhile_isTabOrSpace, rewrite_forcingRule, got, none, List.append_nil,
    trim_append_of_blank]
  · rfl
  · exact fun c member => isBlank_of_isTabOrSpace (inPad c member)

theorem rewriteLine_forcingRule (inLine : '\n' ∉ line) :
    forcingRule.rewriteLine line = forceQuote line :=
  Rule.rewriteLine_eq (fun _ => first_forcingRule inLine) (readings_forcingRule inLine)

end HeaderPiece

end CatalogueViewer.Diagram
