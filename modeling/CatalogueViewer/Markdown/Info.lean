import CatalogueViewer.Markdown.EntityTable
import CatalogueViewer.Markdown.Line
import CatalogueViewer.Text.Blank

/-!
# Info strings

The text after an opening fence, with its escapes resolved; its first word names the language.
-/

namespace CatalogueViewer.Markdown

/-- The character with a code point; zero stands for the replacement character. -/
def ofCodePoint? (n : Nat) : Option Char :=
  if n = 0 then some '\uFFFD' else if h : n.isValidChar then some (Char.ofNatAux n h) else none

def namedEntity? (name : List Char) : Option (List Char) :=
  let name := String.ofList name
  (entityTable.findSome? fun part => part.find? fun entry => entry.1 == name).map fun entry =>
    entry.2.map Char.ofNat

def hexValue? (c : Char) : Option Nat :=
  if c.isDigit then some (c.toNat - '0'.toNat)
  else if 'a' ≤ c && c ≤ 'f' then some (c.toNat - 'a'.toNat + 10)
  else if 'A' ≤ c && c ≤ 'F' then some (c.toNat - 'A'.toNat + 10)
  else none

/-- A number of at most `most` digits before a semicolon, and what follows. -/
def numberedEntity? (base most : Nat) (digit? : Char → Option Nat) (s : List Char) :
    Option (List Char × List Char) :=
  let digits := (s.take most).takeWhile fun c => (digit? c).isSome
  match digits, s.drop digits.length with
  | [], _ => none
  | _, ';' :: rest =>
    let n := digits.foldl (fun n c => n * base + (digit? c).getD 0) 0
    (ofCodePoint? n).map fun c => ([c], rest)
  | _, _ => none

def decimalValue? (c : Char) : Option Nat :=
  if c.isDigit then some (c.toNat - '0'.toNat) else none

/-- What an entity stands for and what follows it; the text starts after the ampersand. -/
def entity? (s : List Char) : Option (List Char × List Char) :=
  match s with
  | '#' :: 'x' :: t => numberedEntity? 16 6 hexValue? t
  | '#' :: 'X' :: t => numberedEntity? 16 6 hexValue? t
  | '#' :: t => numberedEntity? 10 7 decimalValue? t
  | t =>
    let name := t.takeWhile Char.isAlphanum
    match t.drop name.length with
    | ';' :: rest => (namedEntity? name).map fun cs => (cs, rest)
    | _ => none

/-- Resolves entities and escapes of marks and leaves carriage returns out. -/
def unescape : (fuel : Nat) → List Char → List Char
  | 0, _ => []
  | _, [] => []
  | fuel + 1, '\r' :: s => unescape fuel s
  | fuel + 1, '\\' :: c :: s =>
    if isPunctuation c then c :: unescape fuel s else '\\' :: unescape fuel (c :: s)
  | fuel + 1, '&' :: s =>
    match entity? s with
    | some (cs, rest) => cs ++ unescape fuel rest
    | none => '&' :: unescape fuel s
  | fuel + 1, c :: s => c :: unescape fuel s

def language? (info : List Char) : Option String :=
  let info := Text.dropWhileEnd isAsciiBlank info
  (Text.firstWord? (unescape (info.length + 1) info)).map String.ofList

end CatalogueViewer.Markdown
