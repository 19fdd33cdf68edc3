import CatalogueViewer.Text.Blank
import CatalogueViewer.Text.CharClass

/-!
# Patterns

A pattern leads from a place in a text to the places where a match of it can end.  `occursIn` tells
whether a match starts anywhere; which of several matches is taken never matters.
-/

namespace CatalogueViewer.Text

/-- A place in a text: the character before it and the text after it. -/
structure Spot where
  before : Option Char
  after : List Char
  deriving DecidableEq, Repr

/-- The places of a text that follows `before`, from first to last. -/
def spots (before : Option Char) : List Char → List Spot
  | [] => [⟨before, []⟩]
  | c :: s => ⟨before, c :: s⟩ :: spots (some c) s

namespace Spot

def start (text : List Char) : Spot := ⟨none, text⟩

/-- A word begins or ends here. -/
def isWordEdge (s : Spot) : Bool := s.before.any isWordChar != s.after.head?.any isWordChar

/-- A line begins here. -/
def isLineStart (s : Spot) : Bool := s.before.all (· == '\n')

/-- The places that passing over characters of a class leads to. -/
def passing (p : Char → Bool) (before : Option Char) : List Char → List Spot
  | [] => [⟨before, []⟩]
  | c :: s => ⟨before, c :: s⟩ :: if p c then passing p (some c) s else []

end Spot

/-- A pattern that texts are searched for. -/
inductive Pattern where
  | empty
  /-- One character of a class. -/
  | one (p : Char → Bool)
  /-- Any number of characters of a class. -/
  | many (p : Char → Bool)
  | seq (first second : Pattern)
  | alt (first second : Pattern)
  | wordEdge
  | lineStart
  | textEnd

namespace Pattern

/-- The places where a match from `s` can end. -/
def ends : Pattern → Spot → List Spot
  | empty, s => [s]
  | one p, s =>
    match s.after with
    | [] => []
    | c :: rest => if p c then [⟨some c, rest⟩] else []
  | many p, s => Spot.passing p s.before s.after
  | seq first second, s => (first.ends s).flatMap second.ends
  | alt first second, s => first.ends s ++ second.ends s
  | wordEdge, s => if s.isWordEdge then [s] else []
  | lineStart, s => if s.isLineStart then [s] else []
  | textEnd, s => if s.after.isEmpty then [s] else []

/-- Some match starts at `s`. -/
def matchesAt (p : Pattern) (s : Spot) : Bool := !(p.ends s).isEmpty

/-- The text starts with a match. -/
def startsText (p : Pattern) (text : List Char) : Bool := p.matchesAt (.start text)

/-- Some part of the text matches. -/
def occursIn (p : Pattern) (text : List Char) : Bool := (spots none text).any p.matchesAt

/-! ### Common patterns -/

def all : List Pattern → Pattern := List.foldr seq empty

/-- At least one character of a class. -/
def oneOrMore (p : Char → Bool) : Pattern := seq (one p) (many p)

def char (c : Char) : Pattern := one (· == c)

def oneOf (cs : List Char) : Pattern := one cs.contains

/-- Exactly these characters. -/
def text (s : String) : Pattern := all (s.toList.map char)

/-- These letters in either case. -/
def word (s : String) : Pattern := all (s.toList.map fun c => one (sameLetter c))

/-- One of several alternatives. -/
def any (first : Pattern) (more : List Pattern) : Pattern := more.foldl alt first

def optional (p : Pattern) : Pattern := alt p empty

end Pattern

end CatalogueViewer.Text
