import CatalogueViewer.Markdown.Leaf

/-!
# Containers

Quotes and list items hold other blocks.  A line belongs to a container if it repeats what the
container asks for; `matching` takes a line through the open containers from the outside.
-/

namespace CatalogueViewer.Markdown

/-- A block that holds other blocks. -/
inductive Container where
  | quote
  /-- A list with its mark; a tight list has had no blank line between its items. -/
  | list (mark : Char) (tight : Bool)
  /-- An item, with the columns that its lines are indented by. -/
  | item (indent : Nat)
  deriving DecidableEq, Repr

/-- The cursor after the mark of a quote and one column of space. -/
def afterQuoteMark? (c : Cursor) : Option Cursor := (c.char? '>').map (Cursor.skip 1)

/-- The cursor after what a container asks for. -/
def Container.enter? (c : Cursor) : Container → Option Cursor
  | quote => afterQuoteMark? (c.skip 3)
  | list _ _ => some c
  | item indent =>
    match c.use indent with
    | (0, d) => some d
    | (_, d) => if atLineEnd d.rest then some d else none

/-- The number of containers that a line belongs to, from the outside, and where it goes on. -/
def matching (c : Cursor) : List Container → Nat × Cursor
  | [] => (0, c)
  | container :: inner =>
    match container.enter? c with
    | none => (0, c)
    | some d =>
      let (n, e) := matching d inner
      (n + 1, e)

/-- The line at a place goes through the containers; the flag tells whether it belongs to all. -/
def enterAll (outer : List Container) (s : List Char) : Bool × Cursor :=
  let (n, c) := matching ⟨s, 0, 0⟩ outer
  (n == outer.length, c)

/-- A list item that starts at a cursor: its mark, its indentation and where its content starts.  A
thematic break is no list item. -/
def itemStart? (outerIndent : Nat) (c : Cursor) : Option (Char × Nat × Cursor) :=
  match listMark? c.rest with
  | none => none
  | some m =>
    if isBullet m.mark && (afterBreak? c.rest).isSome then none
    else
      let after : Cursor := ⟨c.rest.drop m.width, c.column + m.width, c.spare⟩
      let indent := outerIndent + m.width + 1
      let content := match after.use 1 with
        | (0, d) => some d
        | (_, d) => if atLineEnd d.rest then some d else none
      match content with
      | none => none
      | some d =>
        if isBlankLine d.rest then some (m.mark, indent, d)
        else
          match d.use 4 with
          | (0, _) => some (m.mark, indent, d)
          | (missing, e) => some (m.mark, indent + (4 - missing), e)

end CatalogueViewer.Markdown
