/-!
# Lines of a document

A place in a document is the text from there to its end.  A cursor stands inside a line and counts
columns: a tab reaches to the next multiple of four, and what a reader leaves of its width stays
`spare`.
-/

namespace CatalogueViewer.Markdown

/-- White space inside a line. -/
def isSpacing (c : Char) : Bool := c == ' ' || c == '\t' || c == '\x0b' || c == '\x0c'

/-- White space of ASCII. -/
def isAsciiBlank (c : Char) : Bool := isSpacing c || c == '\n' || c == '\r'

/-- ASCII marks, which a backslash may escape. -/
def isPunctuation (c : Char) : Bool :=
  let n := c.toNat
  (0x21 ≤ n && n ≤ 0x2F) || (0x3A ≤ n && n ≤ 0x40) || (0x5B ≤ n && n ≤ 0x60) ||
    (0x7B ≤ n && n ≤ 0x7E)

/-- What follows a line end, or the end of the text. -/
def lineEnd? : List Char → Option (List Char)
  | [] => some []
  | '\r' :: '\n' :: s => some s
  | '\n' :: s => some s
  | '\r' :: s => some s
  | _ => none

def atLineEnd (s : List Char) : Bool := (lineEnd? s).isSome

/-- What follows a line of which nothing but white space is left. -/
def blankLine? (s : List Char) : Option (List Char) := lineEnd? (s.dropWhile isSpacing)

def isBlankLine (s : List Char) : Bool := (blankLine? s).isSome

/-- The line with its line feed. -/
def takeLine : List Char → List Char
  | [] => []
  | c :: s => if c = '\n' then [c] else c :: takeLine s

/-- What follows the next line feed. -/
def nextLine : List Char → List Char
  | [] => []
  | c :: s => if c = '\n' then s else nextLine s

/-- What follows the next line end of any form. -/
def nextTextLine : List Char → List Char
  | [] => []
  | '\r' :: '\n' :: s => s
  | c :: s => if c = '\n' || c = '\r' then s else nextTextLine s

/-! ### Columns -/

/-- A place in a line. -/
structure Cursor where
  rest : List Char
  /-- The number of characters since the line started or the last tab ended. -/
  column : Nat := 0
  /-- The columns of a tab that have not been used. -/
  spare : Nat := 0
  deriving DecidableEq, Repr

namespace Cursor

/-- Uses up to `n` columns of spaces and tabs, of which `n` is left in the end. -/
def useRest : (n : Nat) → (column : Nat) → List Char → Nat × Cursor
  | 0, column, s => (0, ⟨s, column, 0⟩)
  | n, column, [] => (n, ⟨[], column, 0⟩)
  | n + 1, column, c :: s =>
    if c = ' ' then useRest n (column + 1) s
    else if c = '\t' then
      let width := 4 - column % 4
      if n + 1 < width then (0, ⟨s, 0, width - (n + 1)⟩) else useRest (n + 1 - width) 0 s
    else (n + 1, ⟨c :: s, column, 0⟩)

/-- Uses up to `n` columns; the number tells how many were not there. -/
def use (n : Nat) (c : Cursor) : Nat × Cursor :=
  if n < c.spare then (0, { c with spare := c.spare - n })
  else useRest (n - c.spare) c.column c.rest

/-- The cursor after at most `n` columns. -/
def skip (n : Nat) (c : Cursor) : Cursor := (c.use n).2

/-- How many of `n` columns there are. -/
def count (n : Nat) (c : Cursor) : Nat := n - (c.use n).1

/-- The cursor after all spaces and tabs. -/
def skipAll (c : Cursor) : Cursor :=
  ⟨c.rest.dropWhile fun d => d == ' ' || d == '\t', c.column, 0⟩

/-- The cursor after a character. -/
def char? (d : Char) (c : Cursor) : Option Cursor :=
  match c.rest with
  | [] => none
  | e :: s => if d = e then some ⟨s, c.column + 1, c.spare⟩ else none

end Cursor

end CatalogueViewer.Markdown
