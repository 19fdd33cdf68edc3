import CatalogueViewer.Markdown.Html
import CatalogueViewer.Markdown.Outline

/-!
# Starts of blocks

What the first characters of a line, after its indentation, can start.
-/

namespace CatalogueViewer.Markdown

/-- What follows a thematic break: three marks of one kind or more, and nothing else but blanks. -/
def afterBreak? (s : List Char) : Option (List Char) :=
  match s with
  | [] => none
  | mark :: _ =>
    if mark == '*' || mark == '-' || mark == '_' then
      let run := s.takeWhile fun c => c == mark || c == ' ' || c == '\t'
      if 3 ≤ run.count mark then lineEnd? (s.drop run.length) else none
    else none

def startsHeading (s : List Char) : Bool :=
  let signs := s.takeWhile (· == '#')
  1 ≤ signs.length && signs.length ≤ 6 && (s.drop signs.length).head?.all isAsciiBlank

/-- What follows the underline of a heading. -/
def afterUnderline? (s : List Char) : Option (List Char) :=
  match s with
  | [] => none
  | mark :: _ =>
    if mark == '=' || mark == '-' then blankLine? (s.dropWhile (· == mark)) else none

/-- A code fence; after backticks no other backtick may stand on the line. -/
def fenceStart? (s : List Char) : Option FenceMark :=
  match s with
  | [] => none
  | mark :: _ =>
    let count := (s.takeWhile (· == mark)).length
    if (mark == '\x60' || mark == '~') && 3 ≤ count then
      if mark == '\x60' && (takeLine (s.drop count)).contains '\x60' then none
      else some ⟨mark, count⟩
    else none

/-- What follows the fence that closes a block: as many marks at least, then spaces only.  The end
of the text closes every block. -/
def afterClosingFence? (fence : FenceMark) (s : List Char) : Option (List Char) :=
  if s.isEmpty then some []
  else
    let count := (s.takeWhile (· == fence.mark)).length
    if count < fence.count then none
    else
      let tail := (s.drop count).dropWhile (· == ' ')
      if atLineEnd tail then some tail else none

/-! ### List markers -/

/-- The mark of a list: the bullet, or what stands after the number. -/
structure ListMark where
  mark : Char
  number : Nat
  /-- The number of characters. -/
  width : Nat
  deriving DecidableEq, Repr

def isBullet (c : Char) : Bool := c == '-' || c == '+' || c == '*'

/-- The mark at the start of a text; a number has at most nine digits. -/
def listMark? (s : List Char) : Option ListMark :=
  match s with
  | [] => none
  | c :: _ =>
    if isBullet c then some ⟨c, 0, 1⟩
    else
      let digits := s.takeWhile Char.isDigit
      match (s.drop digits.length).head? with
      | none => none
      | some d =>
        if 1 ≤ digits.length && digits.length ≤ 9 && (d == '.' || d == ')') then
          some ⟨d, digits.foldl (fun n e => n * 10 + (e.toNat - '0'.toNat)) 0, digits.length + 1⟩
        else none

/-- The rest of the line is blank, and so is the next line. -/
def twoBlankLines (s : List Char) : Bool := (blankLine? s).any isBlankLine

/-- A list item that ends a paragraph.  Inside the container of the paragraph it has to have a
bullet or the number one, and something in its first two lines. -/
def interruptsAsItem (inside : Bool) (s : List Char) : Bool :=
  match listMark? s with
  | none => false
  | some m =>
    let tail := s.drop m.width
    if tail.head?.all fun c => c == ' ' || c == '\t' || c == '\n' || c == '\r' then
      !inside || ((isBullet m.mark || m.number == 1) && !twoBlankLines tail)
    else false

/-- A line that ends a paragraph before it; `inside` tells whether the line stands in the container
of the paragraph. -/
def interrupts (inside : Bool) (s : List Char) : Bool :=
  atLineEnd s || (afterBreak? s).isSome || startsHeading s || (fenceStart? s).isSome ||
    s.head? == some '>' || interruptsAsItem inside s ||
    match s with
    | '<' :: tail => (Html.closing? tail).isSome || Html.startsElement tail
    | _ => false

end CatalogueViewer.Markdown
