import CatalogueViewer.Diagram.Kind

/-!
# Structural features

Marks in a text that show the structure of a diagram: arrows, nodes, declarations.
-/

namespace CatalogueViewer.Diagram

open Text Pattern

/-- A mark of structure. -/
inductive Feature where
  | arrow
  | line
  | squareNode
  | roundNode
  | curlyNode
  | participant
  | classDeclaration
  | stateDeclaration
  | relationshipPipe
  | cardinality
  | subgraph
  | direction
  | sectionLine
  | commit
  | pieSlice
  deriving DecidableEq, Repr

namespace Feature

/-- All features, in the order in which they are reported. -/
def all : List Feature :=
  [arrow, line, squareNode, roundNode, curlyNode, participant, classDeclaration, stateDeclaration,
   relationshipPipe, cardinality, subgraph, direction, sectionLine, commit, pieSlice]

def name : Feature → String
  | arrow => "arrow"
  | line => "line"
  | squareNode => "square-node"
  | roundNode => "round-node"
  | curlyNode => "curly-node"
  | participant => "participant"
  | classDeclaration => "class-declaration"
  | stateDeclaration => "state-declaration"
  | relationshipPipe => "relationship-pipe"
  | cardinality => "cardinality"
  | subgraph => "subgraph"
  | direction => "direction"
  | sectionLine => "section"
  | commit => "commit"
  | pieSlice => "pie-slice"

/-- A label between brackets on one line. -/
def label (opening closing : Char) : Pattern :=
  Pattern.all [char opening, many fun c => c != closing && c != '\n', char closing]

/-- A keyword of its own, blanks and then something of the given form. -/
def declaration (keyword : Pattern) (what : Pattern) : Pattern :=
  Pattern.all [wordEdge, keyword, oneOrMore isBlank, what]

/-- Something that stands first on a line after spaces and tabs. -/
def lineItem (what : List Pattern) : Pattern :=
  Pattern.all (lineStart :: many isTabOrSpace :: what)

def pattern : Feature → Pattern
  | arrow => any (text "-->") [text "->>", text "==>", text "-.->"]
  | line => text "---"
  | squareNode => label '[' ']'
  | roundNode => label '(' ')'
  | curlyNode => label '{' '}'
  | participant => declaration (any (word "participant") [word "actor"]) (one (!isBlank ·))
  | classDeclaration => declaration (word "class") (oneOrMore isWordChar)
  | stateDeclaration => declaration (word "state") (oneOrMore isWordChar)
  | relationshipPipe => Pattern.all [char '|', oneOrMore isWordChar, char '|']
  | cardinality =>
    Pattern.all
      [oneOf ['|', '}'], oneOf ['|', 'o'], any (text "--") [text ".."], oneOf ['|', 'o'],
       oneOf ['|', '{']]
  | subgraph => Pattern.all [wordEdge, word "subgraph", wordEdge]
  | direction => declaration (word "direction") (seq Kind.direction wordEdge)
  | sectionLine => lineItem [word "section", oneOrMore isTabOrSpace, one (!isBlank ·)]
  | commit =>
    lineItem [any (word "commit") [word "branch", word "checkout", word "merge"], wordEdge]
  | pieSlice =>
    lineItem
      [char '"', oneOrMore fun c => c != '"' && c != '\n', char '"', many isTabOrSpace, char ':',
       many isTabOrSpace, one Char.isDigit]

def ofText (text : List Char) : List Feature := all.filter fun f => f.pattern.occursIn text

end Feature

end CatalogueViewer.Diagram
