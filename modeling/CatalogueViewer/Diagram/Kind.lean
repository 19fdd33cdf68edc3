import CatalogueViewer.Text.Pattern

/-!
# Kinds of diagrams

A diagram source names its kind by the keyword that it starts with.
-/

namespace CatalogueViewer.Diagram

open Text Pattern

inductive Kind where
  | flowchart
  | sequence
  | classes
  | states
  | entityRelation
  | gantt
  | journey
  | timeline
  | pie
  | gitGraph
  deriving DecidableEq, Repr

namespace Kind

/-- All kinds, in the order in which their keywords are tried. -/
def all : List Kind :=
  [flowchart, sequence, classes, states, entityRelation, gantt, journey, timeline, pie, gitGraph]

def name : Kind → String
  | flowchart => "flowchart"
  | sequence => "sequence"
  | classes => "class"
  | states => "state"
  | entityRelation => "entity-relation"
  | gantt => "gantt"
  | journey => "journey"
  | timeline => "timeline"
  | pie => "pie"
  | gitGraph => "git-graph"

/-- The directions that a flowchart can run in. -/
def direction : Pattern := any (word "TD") [word "TB", word "BT", word "RL", word "LR"]

/-- The end of a flowchart header: a semicolon, the end of the line or the end of the text. -/
def headerEnd : Pattern :=
  any (char ';') [seq (optional (char '\r')) (char '\n'), textEnd]

def keyword : Kind → Pattern
  | flowchart =>
    Pattern.all
      [any (word "flowchart") [word "graph"], optional (seq (oneOrMore isTabOrSpace) direction),
       many isTabOrSpace, headerEnd]
  | sequence => seq (word "sequenceDiagram") wordEdge
  | classes => Pattern.all [word "classDiagram", optional (word "-v2"), wordEdge]
  | states => Pattern.all [word "stateDiagram", optional (word "-v2"), wordEdge]
  | entityRelation => seq (word "erDiagram") wordEdge
  | gantt => seq (word "gantt") wordEdge
  | journey => seq (word "journey") wordEdge
  | timeline => seq (word "timeline") wordEdge
  | pie => seq (word "pie") wordEdge
  | gitGraph => seq (word "gitGraph") wordEdge

/-- The kind whose keyword a text starts with after its blanks. -/
def detect? (text : List Char) : Option Kind :=
  all.find? fun kind => kind.keyword.startsText (trimStart text)

end Kind

end CatalogueViewer.Diagram
