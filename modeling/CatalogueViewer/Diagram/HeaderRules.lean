import CatalogueViewer.Diagram.GroupHeader
import CatalogueViewer.Text.Rewriting

/-!
# Rules for group headers

The rules that quote the titles of group headers, and the two sources they make of a text: one for
the first attempt to draw it and one for the second.
-/

namespace CatalogueViewer.Diagram

open Text GroupHeader

inductive HeaderPiece where
  | indent
  | title
  /-- The parenthetical after a title. -/
  | label
  | tail
  deriving DecidableEq

namespace HeaderPiece

/-- A group header with its title and what follows. -/
def header (inTitle : Char → Bool) (rest : List (Shape HeaderPiece)) : Shape HeaderPiece :=
  .inOrder (.lineStart :: .piece indent (.most isTabOrSpace) :: .word keyword ::
    .mostOf isTabOrSpace :: .piece title (.fewestOf inTitle) :: rest)

def withTitle (m : Passage HeaderPiece) (title tail : List Char) : List Char :=
  m.get indent ++ keyword ++ ' ' :: '"' :: (title ++ '"' :: tail)

/-- A parenthetical with the blanks before it. -/
def parenthetical : List (Shape HeaderPiece) := [.piece label (.inOrder
  [.most isTabOrSpace, .char '(', .most fun c => c != ')' && c != '\n', .char ')'])]

/-- Quotes a title together with the parenthetical after it. -/
def labelledRule : Rule HeaderPiece where
  shape := header (fun c => c != '"' && c != '\n' && c != '(' && c != '[') parenthetical
  rewrite m := withTitle m (trim (m.get title) ++ m.get label) []

def toLineEnd : List (Shape HeaderPiece) := [.most isTabOrSpace, .lineEnd]

/-- Quotes a title with blanks or brackets, if the line has no quote. -/
def bareRule : Rule HeaderPiece where
  shape := header (fun c => c != '"' && c != '\n') toLineEnd
  rewrite m :=
    if needsQuotes (trim (m.get title)) then withTitle m (trim (m.get title)) [] else m.text

/-- Up to the line end, with the piece from a semicolon on. -/
def toSemicolon : List (Shape HeaderPiece) := [.most isTabOrSpace,
  .optional (.piece tail (.inOrder [.char ';', .most (· != '\n')])), .lineEnd]

/-- Quotes a title up to the first semicolon, unless it has a quote. -/
def forcingRule : Rule HeaderPiece where
  shape := header (fun c => c != '"' && c != '\n' && c != ';') toSemicolon
  rewrite m := withTitle m (trim (m.get title)) (m.get tail)

end HeaderPiece

def applyRules (rules : List (Rule HeaderPiece)) (text : List Char) : List Char :=
  rules.foldl (fun out rule => rule.rewriteAll out) (unify text)

/-- The source that a first attempt gives to the engine. -/
def normalize (text : List Char) : List Char :=
  applyRules [HeaderPiece.labelledRule, HeaderPiece.bareRule] text

/-- The source that a second attempt gives to the engine. -/
def recover (text : List Char) : List Char := applyRules [HeaderPiece.forcingRule] text

end CatalogueViewer.Diagram
