import CatalogueViewer.Text.Lines
import CatalogueViewer.Text.Blank

/-!
# Group headers

A line that opens a group of nodes: indentation, the word `subgraph`, spaces or tabs, and the rest
of the line with the title.  Engines stumble over titles without quotes.  `quoteIfNeeded` quotes
titles with blanks or brackets, `forceQuote` every title without a quote; both leave other lines
alone.  They say of one line what the rules for headers do in a text.
-/

namespace CatalogueViewer.Diagram

open Text

structure GroupHeader where
  indent : List Char
  /-- The spaces and tabs after the word. -/
  gap : List Char
  /-- The line from the first character that is neither a space nor a tab. -/
  rest : List Char
  deriving DecidableEq, Repr

namespace GroupHeader

def keyword : List Char := "subgraph".toList

def ofLine? (line : List Char) : Option GroupHeader :=
  let indent := line.takeWhile isTabOrSpace
  let body := line.drop indent.length
  if keyword.isPrefixOf body then
    let tail := body.drop keyword.length
    let gap := tail.takeWhile isTabOrSpace
    if gap.isEmpty then none else some ⟨indent, gap, tail.drop gap.length⟩
  else none

/-- The header with a quoted title, and what follows the title. -/
def withTitle (h : GroupHeader) (title tail : List Char) : List Char :=
  h.indent ++ keyword ++ ' ' :: '"' :: (title ++ '"' :: tail)

/-- An empty title still counts as one blank when the gap has a blank to spare. -/
def hasTitle (h : GroupHeader) (title : List Char) : Bool := !title.isEmpty || 1 < h.gap.length

def stripEnd (s : List Char) : List Char := dropWhileEnd isTabOrSpace s

/-- The rest of a header up to the first quote or opening bracket, and what follows. -/
def splitTitle (h : GroupHeader) : List Char × List Char :=
  h.rest.span fun c => c != '"' && c != '(' && c != '['

/-- A title with a parenthetical after it: the title, the parenthetical with the blanks before it,
and what follows. -/
def parenthetical? (h : GroupHeader) : Option (List Char × List Char × List Char) :=
  let (part, tail) := h.splitTitle
  match tail with
  | '(' :: inner =>
    match inner.span (· != ')') with
    | (label, ')' :: after) =>
      let title := stripEnd part
      if h.hasTitle part then
        some (title, part.drop title.length ++ '(' :: (label ++ [')']), after)
      else none
    | _ => none
  | _ => none

def isBracket (c : Char) : Bool :=
  c == '(' || c == ')' || c == '[' || c == ']' || c == '{' || c == '}'

/-- The title is more than one word or holds a bracket. -/
def needsQuotes (title : List Char) : Bool := title.any fun c => isBlank c || isBracket c

/-- The title of a header without any quote, if it needs quotes. -/
def bareTitle? (h : GroupHeader) : Option (List Char) :=
  if h.rest.contains '"' then none
  else
    let title := trim h.rest
    if needsQuotes title then some title else none

end GroupHeader

open GroupHeader

/-- Quotes the title of a header when it has a parenthetical after it, blanks or brackets. -/
def quoteIfNeeded (line : List Char) : List Char :=
  match ofLine? line with
  | none => line
  | some h =>
    match h.parenthetical? with
    | some (title, label, after) => h.withTitle (trim title ++ label) after
    | none =>
      match h.bareTitle? with
      | some title => h.withTitle title []
      | none => line

/-- Quotes the title of a header up to the first semicolon, unless it holds a quote. -/
def forceQuote (line : List Char) : List Char :=
  match ofLine? line with
  | none => line
  | some h =>
    let (part, tail) := h.rest.span (· != ';')
    if part.contains '"' || !h.hasTitle part then line
    else h.withTitle (trim part) tail

/-! ### Whole sources -/

/-- The trimmed text with line feeds as its only line ends. -/
def unify (text : List Char) : List Char := unifyBreaks (trim text)

def mapLines (f : List Char → List Char) (text : List Char) : List Char :=
  joinBreaks ((splitBreaks (unify text)).map f)

end CatalogueViewer.Diagram
