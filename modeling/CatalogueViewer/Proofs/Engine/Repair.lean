import CatalogueViewer.Engine.Preview
import CatalogueViewer.Proofs.Diagram.LineByLine

/-!
# Group titles that a second attempt repairs

The preview engine fails on a group title that is neither quoted nor an identifier, and a second
attempt quotes such titles.  Engine and rewriting each read a group header in their own way: a title
stays bad that only the engine takes for one.
-/

namespace CatalogueViewer.Preview

open Text Diagram GroupHeader

/-- The engine fails without blaming the balance of the source. -/
def FailsItself (source : List Char) : Prop :=
  ∃ message, draw source = .error (.internal message)

def Balanced (source : List Char) : Prop :=
  checkBalance source (Kind.detect? source == some .flowchart) = .ok ()

def HasBadTitle (line : List Char) : Prop := ∃ fault, lineBadTitle? line = some fault

/-- The line after its blanks and the word of a group header. -/
def afterKeyword (line : List Char) : List Char := (trimStart line).drop keyword.length

/-- What keeps a second attempt from quoting the title of a group header. -/
inductive KeepsTitle (line : List Char) : Prop where
  /-- The line is indented by something else than spaces and tabs. -/
  | indent (c : Char) (member : c ∈ line.takeWhile isBlank) (odd : isTabOrSpace c = false)
  /-- A quote stands in the title. -/
  | quote (member : '"' ∈ (afterKeyword line).takeWhile (· != ';'))
  /-- The title is empty: a semicolon follows at once. -/
  | empty (c : Char) (rest : List Char) (start : afterKeyword line = c :: ';' :: rest)

variable {line : List Char}

theorem takeWhile_append_trimStart (line : List Char) :
    line.takeWhile isBlank ++ trimStart line = line := List.takeWhile_append_dropWhile

/-! ### Headers as the engine reads them -/

theorem groupTitle?_eq_some_iff {title : List Char} :
    groupTitle? line = some title ↔
      ∃ c rest, trimStart line = keyword ++ c :: rest ∧ isTabOrSpace c = true ∧
        title = trim (c :: rest) := by
  unfold groupTitle?
  dsimp only
  constructor
  · intro found
    split at found
    · next starts =>
      obtain ⟨tail, split⟩ := List.isPrefixOf_iff_prefix.mp starts
      rw [← split, List.drop_left] at found
      cases tail with
      | nil => cases found
      | cons c rest =>
        dsimp only at found
        split at found
        · next gap =>
          cases found
          exact ⟨c, rest, split.symm, gap, rfl⟩
        · cases found
    · cases found
  · rintro ⟨c, rest, split, gap, rfl⟩
    have starts : keyword.isPrefixOf (keyword ++ c :: rest) = true :=
      List.isPrefixOf_iff_prefix.mpr (List.prefix_append _ _)
    rw [split, if_pos starts, List.drop_left]
    exact if_pos gap

theorem hasBadTitle_iff : HasBadTitle line ↔
    ∃ c rest fault, trimStart line = keyword ++ c :: rest ∧ isTabOrSpace c = true ∧
      badTitle? (trim (c :: rest)) = some fault := by
  unfold HasBadTitle lineBadTitle?
  simp only [Option.bind_eq_some_iff, groupTitle?_eq_some_iff]
  constructor
  · rintro ⟨fault, title, ⟨c, rest, split, gap, rfl⟩, bad⟩
    exact ⟨c, rest, fault, split, gap, bad⟩
  · rintro ⟨c, rest, fault, split, gap, bad⟩
    exact ⟨fault, _, ⟨c, rest, split, gap, rfl⟩, bad⟩

/-! ### Headers as the rewriting reads them -/

theorem ofLine?_header {indent rest : List Char} {c : Char}
    (blank : ∀ d ∈ indent, isTabOrSpace d = true) (gap : isTabOrSpace c = true) :
    ofLine? (indent ++ (keyword ++ c :: rest)) =
      some ⟨indent, c :: rest.takeWhile isTabOrSpace, rest.dropWhile isTabOrSpace⟩ :=
  ofLine?_append blank (List.forall_mem_singleton.mpr gap) (List.cons_ne_nil c []) rest

theorem exists_blank_of_odd_indent {c : Char} (member : c ∈ line.takeWhile isBlank)
    (odd : isTabOrSpace c = false) :
    ∃ d rest, line.dropWhile isTabOrSpace = d :: rest ∧ isBlank d = true := by
  induction line with
  | nil => cases member
  | cons x xs ih =>
    have blank : isBlank x = true := by
      by_contra visible
      rw [List.takeWhile_cons_of_neg visible] at member
      cases member
    rw [List.takeWhile_cons_of_pos blank] at member
    by_cases gap : isTabOrSpace x = true
    · rw [List.dropWhile_cons_of_pos gap]
      rcases List.mem_cons.mp member with rfl | later
      · rw [gap] at odd
        cases odd
      · exact ih later
    · exact ⟨x, xs, List.dropWhile_cons_of_neg gap, blank⟩

theorem ofLine?_eq_none {c : Char} (member : c ∈ line.takeWhile isBlank)
    (odd : isTabOrSpace c = false) : ofLine? line = none := by
  obtain ⟨d, rest, after, blank⟩ := exists_blank_of_odd_indent member odd
  have other : ¬ keyword.isPrefixOf (d :: rest) = true := by
    intro starts
    have same : 's' = d := (List.cons_prefix_cons.mp (List.isPrefixOf_iff_prefix.mp starts)).1
    rw [← same] at blank
    exact absurd blank (by decide)
  unfold ofLine?
  dsimp only
  rw [drop_length_takeWhile, after, if_neg other]

/-! ### One line -/

theorem trimStart_indent {indent rest : List Char} (blank : ∀ d ∈ indent, isTabOrSpace d = true) :
    trimStart (indent ++ rest) = trimStart rest :=
  List.dropWhile_append_of_pos fun d member => isBlank_of_isTabOrSpace (blank d member)

/-- A title in quotes is never bad. -/
theorem not_hasBadTitle_withTitle {h : GroupHeader} (blank : ∀ d ∈ h.indent, isTabOrSpace d = true)
    (title tail : List Char) : ¬ HasBadTitle (h.withTitle title tail) := by
  have start : trimStart (h.withTitle title tail) =
      keyword ++ ' ' :: '"' :: (title ++ '"' :: tail) := by
    rw [withTitle, List.append_assoc, trimStart_indent blank, keyword_eq]
    rfl
  have quoted : (trim (' ' :: '"' :: (title ++ '"' :: tail))).head? = some '"' := by
    have visible : trimStart (' ' :: '"' :: (title ++ '"' :: tail)) =
        '"' :: (title ++ '"' :: tail) := rfl
    rw [trim, visible, trimEnd_cons_of_visible rfl, List.head?_cons]
  intro bad
  obtain ⟨c, rest, fault, split, -, found⟩ := hasBadTitle_iff.mp bad
  rw [start, List.append_cancel_left_eq] at split
  rw [← split, badTitle?, if_pos quoted] at found
  cases found

theorem not_hasBadTitle_quoted (u : UnquotedHeader) : ¬ HasBadTitle u.quoted := by
  have same : u.quoted = withTitle ⟨u.indent, u.gap, []⟩ (trim u.title ++ u.label) u.tail := by
    simp [UnquotedHeader.quoted, withTitle]
  rw [same]
  exact not_hasBadTitle_withTitle u.inIndent _ _

/-- The title that a second attempt would quote, in what follows the first blank after the word. -/
def titlePart (rest : List Char) : List Char :=
  (rest.dropWhile isTabOrSpace).takeWhile (· != ';')

theorem forceQuote_header {indent rest : List Char} {c : Char}
    (blank : ∀ d ∈ indent, isTabOrSpace d = true) (gap : isTabOrSpace c = true) :
    forceQuote (indent ++ (keyword ++ c :: rest)) =
      if '"' ∈ titlePart rest ∨ titlePart rest = [] ∧ rest.takeWhile isTabOrSpace = [] then
        indent ++ (keyword ++ c :: rest)
      else
        withTitle ⟨indent, c :: rest.takeWhile isTabOrSpace, rest.dropWhile isTabOrSpace⟩
          (trim (titlePart rest)) ((rest.dropWhile isTabOrSpace).dropWhile (· != ';')) := by
  have keeps : ((titlePart rest).contains '"' ||
        !hasTitle ⟨indent, c :: rest.takeWhile isTabOrSpace, rest.dropWhile isTabOrSpace⟩
          (titlePart rest)) = true ↔
      '"' ∈ titlePart rest ∨ titlePart rest = [] ∧ rest.takeWhile isTabOrSpace = [] := by
    simp [hasTitle, List.isEmpty_iff]
  unfold forceQuote
  rw [ofLine?_header blank gap]
  dsimp only
  rw [List.span_eq_takeWhile_dropWhile]
  exact if_congr keeps rfl rfl

theorem ne_semicolon_of_isTabOrSpace {c : Char} (gap : isTabOrSpace c = true) :
    (c != ';') = true := by
  rw [bne_iff_ne]
  rintro rfl
  cases gap

theorem takeWhile_header {rest : List Char} {c : Char} (gap : isTabOrSpace c = true) :
    (c :: rest).takeWhile (· != ';') =
      (c :: rest.takeWhile isTabOrSpace) ++ titlePart rest := by
  have blank : ∀ d ∈ c :: rest.takeWhile isTabOrSpace, (d != ';') = true := by
    intro d member
    rcases List.mem_cons.mp member with rfl | later
    · exact ne_semicolon_of_isTabOrSpace gap
    · exact ne_semicolon_of_isTabOrSpace (List.mem_takeWhile_imp later)
  have split : c :: rest =
      (c :: rest.takeWhile isTabOrSpace) ++ rest.dropWhile isTabOrSpace := by
    rw [List.cons_append, List.takeWhile_append_dropWhile]
  rw [split, List.takeWhile_append_of_pos blank, titlePart]

/-- A line with a bad title is a header, at least for the engine. -/
theorem HasBadTitle.header (bad : HasBadTitle line) :
    ∃ c rest, line = line.takeWhile isBlank ++ (keyword ++ c :: rest) ∧ isTabOrSpace c = true ∧
      afterKeyword line = c :: rest ∧ rest ≠ [] := by
  obtain ⟨c, rest, fault, split, gap, found⟩ := hasBadTitle_iff.mp bad
  refine ⟨c, rest, ?_, gap, ?_, ?_⟩
  · rw [← split, takeWhile_append_trimStart]
  · rw [afterKeyword, split, List.drop_left]
  · rintro rfl
    have none : trim [c] = [] := (trim_eq_nil_iff [c]).mpr (by
      simp [isBlankText, isBlank_of_isTabOrSpace gap])
    rw [none] at found
    cases found

/-- Where nothing but spaces and tabs stands before the word, the title is kept by a quote or for
being empty. -/
theorem keepsTitle_iff {rest : List Char} {c : Char} (gap : isTabOrSpace c = true)
    (after : afterKeyword line = c :: rest) (some : rest ≠ [])
    (blank : ∀ d ∈ line.takeWhile isBlank, isTabOrSpace d = true) :
    KeepsTitle line ↔
      '"' ∈ titlePart rest ∨ titlePart rest = [] ∧ rest.takeWhile isTabOrSpace = [] := by
  constructor
  · rintro (⟨d, member, odd⟩ | quote | ⟨d, others, start⟩)
    · rw [blank d member] at odd
      cases odd
    · rw [after, takeWhile_header gap] at quote
      rcases List.mem_append.mp quote with inGap | inTitle
      · have gaps : ∀ d ∈ c :: rest.takeWhile isTabOrSpace, isTabOrSpace d = true :=
          List.forall_mem_cons.mpr ⟨gap, fun d member => List.mem_takeWhile_imp member⟩
        have impossible := gaps '"' inGap
        cases impossible
      · exact .inl inTitle
    · rw [after] at start
      cases start
      exact .inr ⟨rfl, rfl⟩
  · rintro (quote | ⟨empty, single⟩)
    · refine .quote ?_
      rw [after, takeWhile_header gap]
      exact List.mem_append_right _ quote
    · obtain ⟨d, others, rfl⟩ := List.exists_cons_of_ne_nil some
      have visible : ¬ isTabOrSpace d = true := by
        intro inGap
        rw [List.takeWhile_cons_of_pos inGap] at single
        cases single
      rw [titlePart, List.dropWhile_cons_of_neg visible] at empty
      have semicolon : d = ';' := by
        by_contra other
        simp [other] at empty
      exact .empty c others (by rw [after, semicolon])

theorem forceQuote_eq_self_iff (bad : HasBadTitle line) :
    forceQuote line = line ↔ KeepsTitle line := by
  by_cases spaced : ∀ d ∈ line.takeWhile isBlank, isTabOrSpace d = true
  · obtain ⟨c, rest, split, gap, after, some⟩ := bad.header
    rw [keepsTitle_iff gap after some spaced]
    have rewritten := @forceQuote_header (line.takeWhile isBlank) rest c spaced gap
    rw [← split] at rewritten
    split_ifs at rewritten with keeps
    · exact iff_of_true rewritten keeps
    · refine iff_of_false (fun same => ?_) keeps
      rw [← same, rewritten] at bad
      exact not_hasBadTitle_withTitle spaced _ _ bad
  · obtain ⟨d, member, odd⟩ : ∃ d ∈ line.takeWhile isBlank, isTabOrSpace d = false := by
      simpa using spaced
    refine iff_of_true ?_ (.indent d member odd)
    rw [forceQuote, ofLine?_eq_none member odd]

/-- A second attempt leaves a bad title where it keeps the title, and makes no other title bad. -/
theorem hasBadTitle_forceQuote_iff (line : List Char) :
    HasBadTitle (forceQuote line) ↔ HasBadTitle line ∧ KeepsTitle line := by
  constructor
  · intro bad
    rcases quotesTitles_forceQuote.changes line with unchanged | ⟨u, -, changed⟩
    · rw [unchanged] at bad
      exact ⟨bad, (forceQuote_eq_self_iff bad).mp unchanged⟩
    · rw [changed] at bad
      exact absurd bad (not_hasBadTitle_quoted u)
  · rintro ⟨bad, keeps⟩
    rwa [(forceQuote_eq_self_iff bad).mpr keeps]

/-! ### Whole sources -/

theorem groupTitle?_append_return (line : List Char) :
    groupTitle? (line ++ ['\r']) = groupTitle? line := by
  have blank : isBlank '\r' = true := rfl
  by_cases none : trimStart line = []
  · rw [groupTitle?, groupTitle?, trimStart_append_eq_nil blank none, none]
  · apply Option.ext
    intro title
    rw [groupTitle?_eq_some_iff, groupTitle?_eq_some_iff, Text.trimStart_append none]
    constructor
    · rintro ⟨c, tail, split, gap, rfl⟩
      rcases List.eq_nil_or_concat tail with rfl | ⟨rest, last, rfl⟩
      · obtain ⟨-, same⟩ := List.append_inj' split rfl
        cases same
        cases gap
      · rw [List.concat_eq_append, ← List.cons_append, ← List.append_assoc] at split
        obtain ⟨front, same⟩ := List.append_inj' split rfl
        cases same
        refine ⟨c, rest, front, gap, ?_⟩
        rw [List.concat_eq_append, ← List.cons_append, trim_append_blank blank]
    · rintro ⟨c, rest, split, gap, rfl⟩
      refine ⟨c, rest ++ ['\r'], by rw [split]; simp, gap, ?_⟩
      rw [← List.cons_append, trim_append_blank blank]

theorem hasBadTitle_dropReturn_iff (line : List Char) :
    HasBadTitle (dropReturn line) ↔ HasBadTitle line := by
  unfold dropReturn
  split
  · next last =>
    obtain ⟨before, rfl⟩ := List.getLast?_eq_some_iff.mp last
    rw [List.dropLast_concat, HasBadTitle, HasBadTitle, lineBadTitle?, lineBadTitle?,
      groupTitle?_append_return]
  · rfl

theorem exists_hasBadTitle_linesOfPieces (pieces : List (List Char)) :
    (∃ line ∈ linesOfPieces pieces, HasBadTitle line) ↔ ∃ piece ∈ pieces, HasBadTitle piece := by
  have blank : ¬ HasBadTitle [] := by
    rintro ⟨fault, found⟩
    cases found
  match pieces with
  | [] => rfl
  | [last] =>
    rw [linesOfPieces]
    split
    · next empty =>
      rw [List.isEmpty_iff.mp empty]
      simp [blank]
    · rfl
  | line :: next :: others =>
    have later := exists_hasBadTitle_linesOfPieces (next :: others)
    simp only [linesOfPieces, List.mem_cons, exists_eq_or_imp, hasBadTitle_dropReturn_iff]
      at later ⊢
    rw [later]

theorem failsItself_iff (source : List Char) :
    FailsItself source ↔ Balanced source ∧ ∃ line ∈ splitBreaks source, HasBadTitle line := by
  rw [← exists_hasBadTitle_linesOfPieces]
  unfold FailsItself Balanced draw
  dsimp only
  cases checkBalance source (Kind.detect? source == some .flowchart) with
  | error fault => simp [balanceError, Except.mapError, bind, Except.bind]
  | ok balanced =>
    unfold checkTitles
    rw [lines]
    cases found : (linesOfPieces (splitBreaks source)).findSome? lineBadTitle? with
    | none =>
      have none := List.findSome?_eq_none_iff.mp found
      refine iff_of_false ?_ ?_
      · rintro ⟨message, failed⟩
        cases failed
      · rintro ⟨-, line, member, fault, bad⟩
        rw [none line member] at bad
        cases bad
    | some fault =>
      obtain ⟨line, member, bad⟩ := List.exists_of_findSome?_eq_some found
      refine iff_of_true ?_ ⟨rfl, line, member, fault, bad⟩
      cases fault with
      | character c id => exact ⟨_, rfl⟩
      | blank title => exact ⟨_, rfl⟩

theorem splitBreaks_recover (source : List Char) :
    splitBreaks (recover source) = (splitBreaks (unify source)).map forceQuote := by
  rw [recover_eq]
  exact splitBreaks_mapBreaks (fun _ => quotesTitles_forceQuote.inLine) (unify source)

/-- The engine fails on a balanced source with a bad title, and a second attempt repairs all bad
titles but those that it keeps. -/
theorem failsItself_recover_iff (source : List Char) :
    (FailsItself source ↔ Balanced source ∧ ∃ line ∈ splitBreaks source, HasBadTitle line) ∧
      (FailsItself (recover source) ↔ Balanced (recover source) ∧
        ∃ line ∈ splitBreaks (unify source), HasBadTitle line ∧ KeepsTitle line) := by
  refine ⟨failsItself_iff source, ?_⟩
  rw [failsItself_iff, splitBreaks_recover]
  simp only [List.mem_map, exists_exists_and_eq_and, hasBadTitle_forceQuote_iff]

/-- A header that is indented by a no-break space keeps its title. -/
theorem failsItself_recover_noBreakSpace :
    FailsItself "flowchart TD\n\u00a0subgraph api/v1\nA-->B\nend".toList ∧
      FailsItself (recover "flowchart TD\n\u00a0subgraph api/v1\nA-->B\nend".toList) :=
  ⟨⟨_, rfl⟩, ⟨_, rfl⟩⟩

example :
    draw (recover "flowchart TD\nsubgraph api/v1\nA-->B\nend".toList) =
      draw "flowchart TD\nsubgraph \"api/v1\"\nA-->B\nend".toList := by decide

end CatalogueViewer.Preview
