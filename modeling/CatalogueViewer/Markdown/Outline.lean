import CatalogueViewer.Text.Blank
import CatalogueViewer.Text.Lines

/-!
# Outlines

The headings of a document, found line by line.  Lines inside fenced code are never headings.  The
scan runs over all levels; `outline` keeps those up to a limit and numbers what it keeps.
-/

namespace CatalogueViewer.Markdown

open Text

/-- A jump target of a document. -/
structure Anchor where
  id : String
  level : Nat
  title : String
  deriving DecidableEq, Repr

/-- The mark of a code fence: a backtick or a tilde, and how often it stands. -/
structure FenceMark where
  mark : Char
  count : Nat
  deriving DecidableEq, Repr

/-- The fence that a line opens: at most three spaces, then three marks or more. -/
def fenceOf? (line : List Char) : Option FenceMark :=
  let indent := line.takeWhile (· == ' ')
  if 3 < indent.length then none
  else
    match line.drop indent.length with
    | [] => none
    | c :: rest =>
      let count := ((c :: rest).takeWhile (· == c)).length
      if (c == '\x60' || c == '~') && 3 ≤ count then some ⟨c, count⟩ else none

/-- The line closes an open fence: as many marks at least, and nothing else. -/
def closes (line : List Char) (opened : FenceMark) : Bool :=
  match fenceOf? line with
  | none => false
  | some fence =>
    fence.mark == opened.mark && opened.count ≤ fence.count && (trim line).all (· == opened.mark)

/-- The title without the number signs that may close a heading. -/
def cleanTitle (raw : List Char) : List Char :=
  let title := trim raw
  let rest := dropWhileEnd (· == '#') title
  if rest.length < title.length && rest.getLast?.all isTabOrSpace then trimEnd rest else title

/-- The level and the title of a heading line: one to six number signs, a space or tab, a title. -/
def headingOf? (line : List Char) : Option (Nat × List Char) :=
  let signs := line.takeWhile (· == '#')
  match line.drop signs.length with
  | [] => none
  | c :: rest =>
    if 1 ≤ signs.length && signs.length ≤ 6 && isTabOrSpace c then
      match cleanTitle rest with
      | [] => none
      | title => some (signs.length, title)
    else none

/-- The headings outside of fences; `fence` is the fence that is open before the first line. -/
def headings (fence : Option FenceMark) : List (List Char) → List (Nat × List Char)
  | [] => []
  | line :: rest =>
    match fence with
    | some opened => headings (if closes line opened then none else some opened) rest
    | none =>
      match fenceOf? line with
      | some opened => headings (some opened) rest
      | none =>
        match headingOf? line with
        | none => headings none rest
        | some heading => heading :: headings none rest

/-- The anchors of numbered headings. -/
def anchors (found : List (Nat × List Char)) : List Anchor :=
  found.mapIdx fun i heading =>
    ⟨"heading-" ++ toString i, heading.1, String.ofList heading.2⟩

/-- The deepest level that an outline shows for a wanted one. -/
def clampLevel (level : Nat) : Nat := min (max level 1) 6

/-- The headings of a document up to a level. -/
def outline (maxLevel : Nat) (body : String) : List Anchor :=
  anchors ((headings none (lines body.toList)).filter fun h => h.1 ≤ clampLevel maxLevel)

end CatalogueViewer.Markdown
