import CatalogueViewer.Markdown.Block
import CatalogueViewer.Proofs.Text.LineEnds
import CatalogueViewer.Proofs.Text.Matching

/-!
# Texts that look like diagrams

A text is judged twice: by its trimmed form when a document is taken apart, and by the form with
unified line ends before an engine gets it.  The judgements differ at line ends only:
`looksLikeDiagram_iff_isReady`.
-/

namespace CatalogueViewer.Diagram

open Text Pattern

/-! ### Keywords -/

/-- The words that a source of a kind may start with. -/
def Kind.words : Kind → List String
  | flowchart => ["flowchart", "graph"]
  | sequence => ["sequenceDiagram"]
  | classes => ["classDiagram"]
  | states => ["stateDiagram"]
  | entityRelation => ["erDiagram"]
  | gantt => ["gantt"]
  | journey => ["journey"]
  | timeline => ["timeline"]
  | pie => ["pie"]
  | gitGraph => ["gitGraph"]

def folded (s : List Char) : List Char := s.map foldLetter

theorem folded_prefix_of_word {letters : List Char} {s e : Spot}
    (reached : e ∈ (Pattern.all (letters.map fun c => one (sameLetter c))).ends s) :
    folded letters <+: folded s.after := by
  induction letters generalizing s with
  | nil => exact List.nil_prefix
  | cons c letters ih =>
    obtain ⟨m, first, later⟩ := mem_ends_seq.mp reached
    rw [ends] at first
    split at first
    · cases first
    · next d rest after =>
      split at first
      · next same =>
        rw [List.mem_singleton.mp first] at later
        rw [after]
        exact List.cons_prefix_cons.mpr ⟨beq_iff_eq.mp same, ih later⟩
      · cases first

theorem words_apart : ∀ k l : Kind, k ≠ l → ∀ v ∈ k.words, ∀ w ∈ l.words,
    ¬ folded v.toList <+: folded w.toList := by
  intro k l
  cases k <;> cases l <;> decide

/-- Keywords of two kinds never start the same text. -/
theorem kind_unique {k l : Kind} {text : List Char} {v w : String} (inFirst : v ∈ k.words)
    (inSecond : w ∈ l.words) (first : folded v.toList <+: folded text)
    (second : folded w.toList <+: folded text) : k = l := by
  refine Decidable.byContradiction fun other => ?_
  rcases List.prefix_or_prefix_of_prefix first second with shorter | longer
  · exact words_apart k l other v inFirst w inSecond shorter
  · exact words_apart l k (Ne.symm other) w inSecond v inFirst longer

/-! ### The header of a flowchart -/

def headerParts : List Pattern :=
  [any (word "flowchart") [word "graph"], optional (seq (oneOrMore isTabOrSpace) Kind.direction),
   many isTabOrSpace]

/-- The keyword of a flowchart up to the end of the header. -/
def headerStem : Pattern := Pattern.all headerParts

/-- A flowchart header that ends with two carriage returns before its line feed. -/
def HasStrayReturn (text : List Char) : Prop :=
  ∃ e ∈ headerStem.ends (.start text), ∃ rest, e.after = '\r' :: '\r' :: '\n' :: rest

theorem startsText_flowchart_iff (text : List Char) :
    Kind.flowchart.keyword.startsText text = true ↔
      ∃ e ∈ headerStem.ends (.start text), Kind.headerEnd.matchesAt e = true := by
  have split : ∀ e, e ∈ Kind.flowchart.keyword.ends (.start text) ↔
      ∃ m ∈ headerStem.ends (.start text), e ∈ (Pattern.all [Kind.headerEnd]).ends m :=
    mem_ends_all_append headerParts [Kind.headerEnd] (.start text)
  rw [startsText, matchesAt_iff]
  constructor
  · rintro ⟨e, reached⟩
    obtain ⟨m, stem, last⟩ := (split e).mp reached
    obtain ⟨n, ending, -⟩ := mem_ends_seq.mp last
    exact ⟨m, stem, matchesAt_iff.mpr ⟨n, ending⟩⟩
  · rintro ⟨m, stem, ending⟩
    obtain ⟨n, ending⟩ := matchesAt_iff.mp ending
    exact ⟨n, (split n).mpr ⟨m, stem, mem_ends_seq.mpr ⟨n, ending, List.mem_singleton_self n⟩⟩⟩

theorem exists_word_of_stem {text : List Char} {e : Spot}
    (reached : e ∈ headerStem.ends (.start text)) :
    ∃ w ∈ Kind.flowchart.words, folded w.toList <+: folded text := by
  obtain ⟨m, first, -⟩ := mem_ends_seq.mp reached
  rcases List.mem_append.mp first with here | here
  · exact ⟨"flowchart", by decide, folded_prefix_of_word here⟩
  · exact ⟨"graph", by decide, folded_prefix_of_word here⟩

theorem exists_word_of_keyword {kind : Kind} {text : List Char}
    (starts : kind.keyword.startsText text = true) :
    ∃ w ∈ kind.words, folded w.toList <+: folded text := by
  cases kind with
  | flowchart =>
    obtain ⟨e, reached, -⟩ := (startsText_flowchart_iff text).mp starts
    exact exists_word_of_stem reached
  | _ =>
    obtain ⟨e, reached⟩ := matchesAt_iff.mp starts
    obtain ⟨m, first, -⟩ := mem_ends_seq.mp reached
    exact ⟨_, List.mem_singleton_self _, folded_prefix_of_word first⟩

/-- The text goes on with the end of a header. -/
def endsHeader : List Char → Bool
  | [] | ';' :: _ | '\n' :: _ | '\r' :: '\n' :: _ => true
  | _ => false

theorem matchesAt_headerEnd (s : Spot) : Kind.headerEnd.matchesAt s = endsHeader s.after := by
  obtain ⟨before, after⟩ := s
  fun_cases endsHeader after
  · rfl
  · rfl
  · rfl
  · rfl
  · next none semicolon feed both =>
    obtain ⟨c, rest, rfl⟩ := List.exists_cons_of_ne_nil none
    have notSemicolon : c ≠ ';' := fun same => semicolon rest (by rw [same])
    have notFeed : c ≠ '\n' := fun same => feed rest (by rw [same])
    by_cases carriage : c = '\r'
    · subst carriage
      cases rest with
      | nil => rfl
      | cons d rest =>
        have other : d ≠ '\n' := fun same => both rest (by rw [same])
        simp [matchesAt, Kind.headerEnd, Pattern.any, Pattern.optional, char, ends, other]
    · simp [matchesAt, Kind.headerEnd, Pattern.any, Pattern.optional, char, ends, carriage, notFeed,
        notSemicolon]

theorem endsHeader_cons {c : Char} (other : c ≠ '\r') (s t : List Char) :
    endsHeader (c :: s) = endsHeader (c :: t) := by
  unfold endsHeader
  split <;> simp_all

theorem endsHeader_return {c : Char} (other : c ≠ '\n') (s : List Char) :
    endsHeader ('\r' :: c :: s) = false := by
  unfold endsHeader
  split <;> simp_all

theorem endsHeader_unifyBreaks (s : List Char) : endsHeader (unifyBreaks s) = true ↔
    endsHeader s = true ∨ ∃ r, s = '\r' :: '\r' :: '\n' :: r := by
  cases s with
  | nil => simp [unifyBreaks, endsHeader]
  | cons c s =>
    rcases return_or_single c s with ⟨r, rfl, rfl⟩ | single
    · simp [unifyBreaks, endsHeader]
    · rw [unifyBreaks_cons single]
      by_cases carriage : c = '\r'
      · subst carriage
        cases s with
        | nil => simp [unifyBreaks]
        | cons d s =>
          have other : d ≠ '\n' := by simpa using single
          rw [endsHeader_return other]
          rcases return_or_single d s with ⟨r, rfl, rfl⟩ | inner
          · simp [unifyBreaks, endsHeader]
          · rw [unifyBreaks_cons inner, endsHeader_return other]
            refine iff_of_false Bool.false_ne_true ?_
            rintro (impossible | ⟨r, split⟩)
            · cases impossible
            · cases split
              exact inner ⟨rfl, rfl⟩
      · rw [endsHeader_cons carriage _ s]
        simp [carriage]

theorem startsText_flowchart_unifyBreaks (text : List Char) :
    Kind.flowchart.keyword.startsText (unifyBreaks text) = true ↔
      Kind.flowchart.keyword.startsText text = true ∨ HasStrayReturn text := by
  have ignores : headerStem.ignoresReturns = true := by decide
  have whole : headerStem.leavesWhole = true := by decide
  have stemEnds : headerStem.ends (.start (unifyBreaks text)) =
      Spot.kept (headerStem.ends (.start text)) := ends_unified (s := .start text) ignores rfl
  simp only [startsText_flowchart_iff, matchesAt_headerEnd, stemEnds, Spot.mem_kept]
  constructor
  · rintro ⟨e, ⟨m, reached, -, rfl⟩, ending⟩
    rcases (endsHeader_unifyBreaks m.after).mp ending with plain | stray
    · exact .inl ⟨m, reached, plain⟩
    · exact .inr ⟨m, reached, stray⟩
  · rintro (⟨m, reached, plain⟩ | ⟨m, reached, stray⟩)
    · have outside := outside_of_leavesWhole (s := .start text) whole rfl reached
      exact ⟨m.unified, ⟨m, reached, outside, rfl⟩, (endsHeader_unifyBreaks _).mpr (.inl plain)⟩
    · have outside := outside_of_leavesWhole (s := .start text) whole rfl reached
      exact ⟨m.unified, ⟨m, reached, outside, rfl⟩, (endsHeader_unifyBreaks _).mpr (.inr stray)⟩

/-! ### The end of a header -/

/-- Where a header ends or takes another line end, one of these characters follows. -/
def headerMarks : List Char := [';', '\r', '\n']

/-- Of the places after the stem of a header, only one is before a mark or the end of the text. -/
theorem after_of_headerStem {text : List Char} {e : Spot}
    (reached : e ∈ headerStem.ends (.start text)) (marked : ∀ c ∈ e.after.head?, c ∈ headerMarks) :
    e.after = text.dropWhile (!headerMarks.contains ·) := by
  have avoiding : headerStem.avoids headerMarks = true := by decide
  obtain ⟨passed, split, free⟩ := clear_of_avoids avoiding reached
  have stays : e.after.dropWhile (!headerMarks.contains ·) = e.after := by
    cases rest : e.after with
    | nil => rfl
    | cons c rest' =>
      rw [rest] at marked
      exact List.dropWhile_cons_of_neg (by simpa using marked c rfl)
  -- No mark is passed over, and a mark or the end of the text comes next.
  have text_eq : text = passed ++ e.after := split
  rw [text_eq, List.dropWhile_append_of_pos (by simpa using free), stays]

theorem head_mem_of_endsHeader {s : List Char} (ending : endsHeader s = true) :
    ∀ c ∈ s.head?, c ∈ headerMarks := by
  unfold endsHeader at ending
  split at ending <;> simp_all [headerMarks]

/-- A header with a stray carriage return is no header of any kind. -/
theorem startsText_of_hasStrayReturn {text : List Char} (stray : HasStrayReturn text)
    (kind : Kind) : kind.keyword.startsText text = false := by
  rw [Bool.eq_false_iff]
  intro starts
  obtain ⟨e, stem, rest, returns⟩ := stray
  obtain ⟨v, ofFlowchart, first⟩ := exists_word_of_stem stem
  obtain ⟨w, ofKind, second⟩ := exists_word_of_keyword starts
  obtain rfl := kind_unique ofFlowchart ofKind first second
  obtain ⟨m, other, ending⟩ := (startsText_flowchart_iff text).mp starts
  rw [matchesAt_headerEnd] at ending
  have atStray := after_of_headerStem stem (by simp [returns, headerMarks])
  have atEnd := after_of_headerStem other (head_mem_of_endsHeader ending)
  rw [atEnd, ← atStray, returns, endsHeader_return (by decide)] at ending
  cases ending

/-! ### The two judgements -/

theorem occursIn_feature_unifyBreaks (f : Feature) (text : List Char) :
    f.pattern.occursIn (unifyBreaks text) = f.pattern.occursIn text := by
  apply occursIn_unifyBreaks <;> cases f <;> decide

theorem startsText_keyword_unifyBreaks {kind : Kind} (other : kind ≠ .flowchart)
    (text : List Char) :
    kind.keyword.startsText (unifyBreaks text) = kind.keyword.startsText text := by
  apply startsText_unifyBreaks <;> cases kind <;> first | exact absurd rfl other | decide

theorem exists_keyword_unifyBreaks (text : List Char) :
    (∃ kind : Kind, kind.keyword.startsText (unifyBreaks text) = true) ↔
      (∃ kind : Kind, kind.keyword.startsText text = true) ∨ HasStrayReturn text := by
  constructor
  · rintro ⟨kind, starts⟩
    by_cases flowchart : kind = .flowchart
    · subst flowchart
      exact ((startsText_flowchart_unifyBreaks text).mp starts).imp_left fun starts => ⟨_, starts⟩
    · rw [startsText_keyword_unifyBreaks flowchart] at starts
      exact .inl ⟨kind, starts⟩
  · rintro (⟨kind, starts⟩ | stray)
    · by_cases flowchart : kind = .flowchart
      · subst flowchart
        exact ⟨_, (startsText_flowchart_unifyBreaks text).mpr (.inl starts)⟩
      · exact ⟨kind, by rwa [startsText_keyword_unifyBreaks flowchart]⟩
    · exact ⟨_, (startsText_flowchart_unifyBreaks text).mpr (.inr stray)⟩

theorem Kind.detect?_isSome_iff {text : List Char} (trimmed : trimStart text = text) :
    (Kind.detect? text).isSome = true ↔ ∃ kind : Kind, kind.keyword.startsText text = true := by
  have complete : ∀ kind : Kind, kind ∈ Kind.all := by
    intro kind
    cases kind <;> decide
  rw [Kind.detect?, List.find?_isSome, trimmed]
  constructor
  · rintro ⟨kind, -, starts⟩
    exact ⟨kind, starts⟩
  · rintro ⟨kind, starts⟩
    exact ⟨kind, complete kind, starts⟩

theorem prevalidate_eq_ok_iff {text : List Char} (trimmed : trimStart text = text) :
    (∃ kind, prevalidate text = .ok kind) ↔ minLength ≤ text.length ∧
      (∃ kind : Kind, kind.keyword.startsText text = true) ∧
        (Feature.all.any fun f => f.pattern.occursIn text) = true := by
  rw [← Kind.detect?_isSome_iff trimmed]
  fun_cases prevalidate text with
  | case1 short => simp [Nat.not_le.mpr short]
  | case2 long unknown => simp [unknown]
  | case3 long kind known structured => simp [Nat.not_lt.mp long, known, structured]
  | case4 long kind known structured => simp [known, structured]

theorem looksLikeDiagram_iff (text : List Char) : looksLikeDiagram text = true ↔
    minLength ≤ (trim text).length ∧
      (∃ kind : Kind, kind.keyword.startsText (trim text) = true) ∧
        (Feature.all.any fun f => f.pattern.occursIn (trim text)) = true := by
  rw [← prevalidate_eq_ok_iff (trimStart_trim text), looksLikeDiagram]
  split
  · next kind fits => simp [fits]
  · next reason fails => simp [fails]

/-- An engine gets the diagram. -/
def IsReady (text : String) : Prop := ∃ diagram, prepare text = .ready diagram

theorem isReady_iff_prevalidate (text : String) :
    IsReady text ↔ ∃ kind, prevalidate (unify text.toList) = .ok kind := by
  rw [IsReady, prepare]
  split
  · next none =>
    rw [List.isEmpty_iff.mp none]
    exact iff_of_false (fun ⟨_, ready⟩ => nomatch ready) (fun ⟨_, fits⟩ => nomatch fits)
  · split
    · next kind fits => simp [fits]
    · next reason fails => simp [fails]

theorem isReady_iff (text : String) : IsReady text ↔
    minLength ≤ (unify text.toList).length ∧
      ((∃ kind : Kind, kind.keyword.startsText (trim text.toList) = true) ∨
        HasStrayReturn (trim text.toList)) ∧
        (Feature.all.any fun f => f.pattern.occursIn (trim text.toList)) = true := by
  rw [isReady_iff_prevalidate, unify, prevalidate_eq_ok_iff (trimStart_unifyBreaks_trim _),
    exists_keyword_unifyBreaks]
  simp only [occursIn_feature_unifyBreaks]

/-- If the text looks like a diagram, it is long enough with unified line ends as well; if an engine
gets it, its header has no stray carriage return. -/
structure RegularEnds (text : String) : Prop where
  long : looksLikeDiagram text.toList = true → minLength ≤ (unify text.toList).length
  header : IsReady text → ¬ HasStrayReturn (trim text.toList)

theorem isReady_iff_long {text : String} (looks : looksLikeDiagram text.toList = true) :
    IsReady text ↔ minLength ≤ (unify text.toList).length := by
  obtain ⟨-, keyword, structured⟩ := (looksLikeDiagram_iff _).mp looks
  rw [isReady_iff]
  exact ⟨And.left, fun long => ⟨long, .inl keyword, structured⟩⟩

theorem looksLikeDiagram_iff_not_stray {text : String} (ready : IsReady text) :
    looksLikeDiagram text.toList = true ↔ ¬ HasStrayReturn (trim text.toList) := by
  obtain ⟨long, keyword, structured⟩ := (isReady_iff text).mp ready
  rw [looksLikeDiagram_iff]
  constructor
  · rintro ⟨-, ⟨kind, starts⟩, -⟩ stray
    rw [startsText_of_hasStrayReturn stray kind] at starts
    cases starts
  · intro regular
    exact ⟨Nat.le_trans long (length_unifyBreaks_le _), keyword.resolve_right regular, structured⟩

theorem agree_iff_regularEnds (text : String) :
    (looksLikeDiagram text.toList = true ↔ IsReady text) ↔ RegularEnds text := by
  constructor
  · intro agree
    constructor
    · exact fun looks => (isReady_iff_long looks).mp (agree.mp looks)
    · exact fun ready => (looksLikeDiagram_iff_not_stray ready).mp (agree.mpr ready)
  · rintro ⟨long, header⟩
    constructor
    · exact fun looks => (isReady_iff_long looks).mpr (long looks)
    · exact fun ready => (looksLikeDiagram_iff_not_stray ready).mpr (header ready)

/-- What looks like a diagram is what an engine gets, exactly if the line ends are regular; so it is
with what a fenced block without a tag is shown as. -/
theorem looksLikeDiagram_iff_isReady (text : String) :
    ((looksLikeDiagram text.toList = true ↔ IsReady text) ↔ RegularEnds text) ∧
    ∀ b : Markdown.CodeBlock, b.text = text → b.fenced = true → b.isLanguage "mermaid" = false →
      ((b.isDiagram = true ↔ IsReady text) ↔ RegularEnds text) := by
  refine ⟨agree_iff_regularEnds text, ?_⟩
  rintro b rfl fenced untagged
  rw [Markdown.CodeBlock.isDiagram, fenced, untagged, Bool.true_and, Bool.false_or]
  exact agree_iff_regularEnds b.text

/-- A block with two kinds of line ends, without a language. -/
theorem looksLikeDiagram_iff_isReady_flowchart :
    (Markdown.CodeBlock.isDiagram ⟨none, "graph TD\r\nA-->B\n", true, 0, 0⟩ = true ↔
      IsReady "graph TD\r\nA-->B\n") ↔ RegularEnds "graph TD\r\nA-->B\n" :=
  (looksLikeDiagram_iff_isReady "graph TD\r\nA-->B\n").2 ⟨none, _, true, 0, 0⟩ rfl rfl rfl

/-- Ten characters before the line ends are unified, nine after. -/
theorem looksLikeDiagram_not_isReady_lineEnd :
    ¬ ∀ text : String, looksLikeDiagram text.toList = true ↔ IsReady text := by
  intro agree
  have looks : looksLikeDiagram "graph\r\n---".toList = true := by decide
  obtain ⟨diagram, ready⟩ := (agree "graph\r\n---").mp looks
  have rejected : prepare "graph\r\n---" = .rejected .tooShort := by decide
  rw [rejected] at ready
  cases ready

end CatalogueViewer.Diagram
