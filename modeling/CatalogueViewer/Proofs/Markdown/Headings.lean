import CatalogueViewer.Proofs.Markdown.Fences
import CatalogueViewer.Proofs.Text.Numbered
import CatalogueViewer.Proofs.Text.Unifying
import Mathlib.Data.List.Induction
import Mathlib.Data.List.Nodup

/-!
# Outlines of one document

A scan that leaves out deep headings as it goes knows the same fences as one that shows all of them,
so the outlines of a document up to different levels tell the same headings and differ in their
numbers only.
-/

namespace CatalogueViewer.Markdown

open Text

/-! ### The scan -/

/-- What a scan knows between two lines. -/
structure Scan where
  /-- The fence that is open. -/
  fence : Option FenceMark := none
  /-- The headings that the outline shows so far. -/
  shown : List Anchor := []

def headingId (n : Nat) : String := "heading-" ++ toString n

/-- Reads the next line: a heading that is neither code nor too deep gets the next number. -/
def Scan.read (maxLevel : Nat) (scan : Scan) (line : List Char) : Scan :=
  match scan.fence with
  | some opened => { scan with fence := if closes line opened then none else some opened }
  | none =>
    match fenceOf? line with
    | some opened => { scan with fence := some opened }
    | none =>
      match headingOf? line with
      | none => scan
      | some (level, title) =>
        if level ≤ clampLevel maxLevel then
          let anchor := ⟨headingId scan.shown.length, level, String.ofList title⟩
          { scan with shown := scan.shown ++ [anchor] }
        else scan

/-- The scan of a text from its first line to its last. -/
def scanned (maxLevel : Nat) (text : List Char) : Scan :=
  (lines text).foldl (Scan.read maxLevel) {}

/-- The heading of a line before which `fence` is open. -/
def headingAt? (fence : Option FenceMark) (line : List Char) : Option (Nat × List Char) :=
  if fence.isNone && (fenceOf? line).isNone then headingOf? line else none

section

variable {fence : Option FenceMark} {line : List Char} {found : List (Nat × List Char)}

theorem headings_cons (fence : Option FenceMark) (line : List Char) (rest : List (List Char)) :
    headings fence (line :: rest) =
      (headingAt? fence line).toList ++ headings (fenceAfter fence line) rest := by
  cases fence with
  | some opened => simp [headings, headingAt?, fenceAfter]
  | none =>
    cases opens : fenceOf? line with
    | some opened => simp [headings, headingAt?, fenceAfter, opens]
    | none => cases found : headingOf? line <;> simp [headings, headingAt?, fenceAfter, opens, found]

theorem headings_append (fence : Option FenceMark) (ls more : List (List Char)) :
    headings fence (ls ++ more) = headings fence ls ++ headings (ls.foldl fenceAfter fence) more := by
  induction ls generalizing fence with
  | nil => rfl
  | cons line ls ih =>
    rw [List.cons_append, headings_cons, ih, headings_cons, List.foldl_cons, List.append_assoc]

theorem anchors_concat (found : List (Nat × List Char)) (heading : Nat × List Char) :
    anchors (found ++ [heading]) =
      anchors found ++ [⟨headingId found.length, heading.1, String.ofList heading.2⟩] := by
  simp [anchors, headingId, List.mapIdx_append]

theorem length_anchors (found : List (Nat × List Char)) : (anchors found).length = found.length := by
  simp [anchors]

/-- A line changes the fence whatever the level, and adds at most its own heading. -/
theorem Scan.read_anchors (maxLevel : Nat) (fence : Option FenceMark)
    (found : List (Nat × List Char)) (line : List Char) :
    Scan.read maxLevel ⟨fence, anchors found⟩ line =
      ⟨fenceAfter fence line,
        anchors (found ++ (headingAt? fence line).toList.filter fun h => h.1 ≤ clampLevel maxLevel)⟩ := by
  cases fence with
  | some opened => simp [Scan.read, fenceAfter, headingAt?]
  | none =>
    cases opens : fenceOf? line with
    | some opened => simp [Scan.read, fenceAfter, headingAt?, opens]
    | none =>
      cases heading : headingOf? line with
      | none => simp [Scan.read, fenceAfter, headingAt?, opens, heading]
      | some h =>
        by_cases flat : h.1 ≤ clampLevel maxLevel
        · simp [Scan.read, fenceAfter, headingAt?, opens, heading, flat, anchors_concat,
            length_anchors]
        · simp [Scan.read, fenceAfter, headingAt?, opens, heading, flat]

theorem foldl_read (maxLevel : Nat) (fence : Option FenceMark) (found : List (Nat × List Char))
    (ls : List (List Char)) :
    ls.foldl (Scan.read maxLevel) ⟨fence, anchors found⟩ =
      ⟨ls.foldl fenceAfter fence,
        anchors (found ++ (headings fence ls).filter fun h => h.1 ≤ clampLevel maxLevel)⟩ := by
  induction ls generalizing fence found with
  | nil => simp [headings]
  | cons line ls ih =>
    rw [List.foldl_cons, Scan.read_anchors, ih, headings_cons, List.filter_append, List.append_assoc,
      List.foldl_cons]

theorem shown_scanned (maxLevel : Nat) (body : String) :
    (scanned maxLevel body.toList).shown = outline maxLevel body := by
  have start := foldl_read maxLevel none [] (lines body.toList)
  rw [List.nil_append] at start
  exact congrArg Scan.shown start

theorem fence_scanned (maxLevel : Nat) (text : List Char) :
    (scanned maxLevel text).fence = (lines text).foldl fenceAfter none :=
  congrArg Scan.fence (foldl_read maxLevel none [] (lines text))

/-! ### Levels and numbers -/

/-- The anchors with numbers from zero. -/
def renumber (shown : List Anchor) : List Anchor :=
  shown.mapIdx fun n anchor => { anchor with id := headingId n }

theorem renumber_anchors_filter (found : List (Nat × List Char)) (level : Nat) :
    renumber ((anchors found).filter fun a => a.level ≤ level) =
      anchors (found.filter fun h => h.1 ≤ level) := by
  induction found using List.reverseRecOn with
  | nil => rfl
  | append_singleton found h ih =>
    have same : ((anchors found).filter fun a => a.level ≤ level).length =
        (found.filter fun h => h.1 ≤ level).length := by
      have lengths := congrArg List.length ih
      rwa [renumber, List.length_mapIdx, length_anchors] at lengths
    rw [anchors_concat, List.filter_append, List.filter_append]
    by_cases flat : h.1 ≤ level
    · simp only [List.filter_cons, List.filter_nil, flat, decide_true, if_true]
      rw [anchors_concat, ← ih, ← same]
      simp [renumber, List.mapIdx_append]
    · simpa [flat] using ih

theorem outline_eq_renumber (maxLevel : Nat) (body : String) :
    outline maxLevel body =
      renumber ((outline 6 body).filter fun a => a.level ≤ clampLevel maxLevel) := by
  have deep : ∀ h : Nat × List Char,
      (decide (h.1 ≤ clampLevel maxLevel) && decide (h.1 ≤ clampLevel 6)) =
        decide (h.1 ≤ clampLevel maxLevel) := by
    intro h
    have bound : clampLevel maxLevel ≤ clampLevel 6 := by simp only [clampLevel]; omega
    by_cases flat : h.1 ≤ clampLevel maxLevel
    · simp [flat, Nat.le_trans flat bound]
    · simp [flat]
  rw [outline, outline, renumber_anchors_filter, List.filter_filter]
  simp only [deep]

theorem ids_anchors (found : List (Nat × List Char)) :
    (anchors found).map Anchor.id = (List.range found.length).map headingId := by
  apply List.ext_getElem
  · simp [anchors]
  · intro i _ _
    simp [anchors, headingId]

theorem headingId_inj {m n : Nat} (same : headingId m = headingId n) : m = n := by
  have dashed (k : Nat) : headingId k = "heading" ++ "-" ++ toString k := rfl
  rw [dashed, dashed] at same
  exact (numbered_inj same).2

theorem nodup_ids_anchors (found : List (Nat × List Char)) :
    ((anchors found).map Anchor.id).Nodup := by
  rw [ids_anchors]
  exact List.Nodup.map (fun _ _ => headingId_inj) List.nodup_range

/-! ### Titles -/

theorem isTrimmed_trimEnd_of_prefix {s title : List Char} (trimmed : IsTrimmed title)
    (front : s <+: title) : IsTrimmed (trimEnd s) where
  start := by
    intro c first
    obtain ⟨rest, split⟩ := List.head?_eq_some_iff.mp first
    obtain ⟨more, whole⟩ := (trimEnd_isPrefix s).trans front
    exact trimmed.start c (by rw [← whole, split]; rfl)
  stop := getLast?_trimEnd s

theorem isTrimmed_cleanTitle (raw : List Char) : IsTrimmed (cleanTitle raw) := by
  unfold cleanTitle
  dsimp only
  split
  · exact isTrimmed_trimEnd_of_prefix (isTrimmed_trim raw) (dropWhileEnd_isPrefix _ _)
  · exact isTrimmed_trim raw

theorem title_of_headingOf? {h : Nat × List Char} (heading : headingOf? line = some h) :
    h.2 ≠ [] ∧ IsTrimmed h.2 := by
  unfold headingOf? at heading
  dsimp only at heading
  split at heading
  · cases heading
  next c rest _ =>
    split at heading
    · split at heading
      · cases heading
      next visible =>
        cases heading
        exact ⟨visible, isTrimmed_cleanTitle rest⟩
    · cases heading

theorem title_of_mem_headings {ls : List (List Char)} {h : Nat × List Char}
    (member : h ∈ headings fence ls) : h.2 ≠ [] ∧ IsTrimmed h.2 := by
  induction ls generalizing fence with
  | nil => cases member
  | cons line ls ih =>
    rw [headings_cons, List.mem_append, Option.mem_toList] at member
    rcases member with here | later
    · unfold headingAt? at here
      split at here
      · exact title_of_headingOf? here
      · cases here
    · exact ih later

theorem title_of_mem_outline {maxLevel : Nat} {body : String} {a : Anchor}
    (member : a ∈ outline maxLevel body) : a.title ≠ "" ∧ IsTrimmed a.title.toList := by
  rw [outline, anchors, List.mem_mapIdx] at member
  obtain ⟨i, bound, rfl⟩ := member
  have source := (List.mem_filter.mp (List.getElem_mem bound)).1
  obtain ⟨visible, trimmed⟩ := title_of_mem_headings source
  refine ⟨fun none => visible ?_, by simpa using trimmed⟩
  simpa using none

/-! ### Lines in front -/

/-- The text is made of whole lines. -/
def endsLine (text : List Char) : Bool := text.getLast?.all (· == '\n')

theorem lines_append_of_endsLine {before : List Char} (whole : endsLine before) (s : List Char) :
    lines (before ++ s) = lines before ++ lines s := by
  cases last : before.getLast? with
  | none =>
    rw [List.getLast?_eq_none_iff.mp last]
    rfl
  | some c =>
    obtain ⟨front, rfl⟩ := List.getLast?_eq_some_iff.mp last
    obtain rfl : c = '\n' := by simpa [endsLine] using whole
    rw [List.append_assoc]
    exact lines_append front s

theorem outline_append {maxLevel : Nat} {before : String} (body : String)
    (whole : endsLine before.toList) (bare : outline maxLevel before = [])
    (closed : (scanned maxLevel before.toList).fence = none) :
    outline maxLevel (before ++ body) = outline maxLevel body := by
  rw [fence_scanned] at closed
  have nothing : (headings none (lines before.toList)).filter
      (fun h => h.1 ≤ clampLevel maxLevel) = [] := by
    have lengths := congrArg List.length bare
    rw [outline, length_anchors] at lengths
    exact List.eq_nil_of_length_eq_zero lengths
  rw [outline, String.toList_append, lines_append_of_endsLine whole, headings_append, closed,
    List.filter_append, nothing, List.nil_append]
  rfl

end

/-- The outline of a document up to a level is what a scan up to that level shows: the headings of
the whole outline that are not too deep, numbered without gaps.  Lines in front that show no heading
and leave no fence open do not matter. -/
theorem outline_by_level (maxLevel : Nat) (body : String) :
    outline maxLevel body = (scanned maxLevel body.toList).shown ∧
    outline maxLevel body =
      renumber ((outline 6 body).filter fun a => a.level ≤ clampLevel maxLevel) ∧
    (outline maxLevel body).map Anchor.id =
      (List.range (outline maxLevel body).length).map headingId ∧
    ((outline maxLevel body).map Anchor.id).Nodup ∧
    (∀ a ∈ outline maxLevel body, a.title ≠ "" ∧ IsTrimmed a.title.toList) ∧
    ∀ before : String, endsLine before.toList → outline maxLevel before = [] →
      (scanned maxLevel before.toList).fence = none →
      outline maxLevel (before ++ body) = outline maxLevel body := by
  refine ⟨(shown_scanned maxLevel body).symm, outline_eq_renumber maxLevel body, ?_,
    nodup_ids_anchors _, fun a => title_of_mem_outline, fun before => outline_append body⟩
  rw [outline, ids_anchors, length_anchors]

/-- A title page whose code and whose only heading, on the fourth level, are not shown. -/
def titlePage : String := "> by hand\n```sh\n# not a heading\n~~~\n```\n#### Imprint\n"

/-- Headings of three levels, the first with closing marks, and a fence that stays open. -/
def manual : String := "# Setup  ##\n#### Paths\n## Usage\r\n~~~\n# Inside\n"

theorem outline_by_level_manual :
    (⟨"heading-1", 2, "Usage"⟩ ∈ outline 2 manual ∧ "Usage" ≠ "" ∧ IsTrimmed "Usage".toList) ∧
    endsLine titlePage.toList = true ∧ outline 2 titlePage = [] ∧
    (scanned 2 titlePage.toList).fence = none ∧ outline 2 (titlePage ++ manual) = outline 2 manual :=
  have laws := (outline_by_level 2 manual).2.2.2.2
  have usage : ⟨"heading-1", 2, "Usage"⟩ ∈ outline 2 manual := by decide
  ⟨⟨usage, laws.1 _ usage⟩, by decide, by decide, by decide,
    laws.2 titlePage (by decide) (by decide) (by decide)⟩

end CatalogueViewer.Markdown
