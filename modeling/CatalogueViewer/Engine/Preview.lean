import CatalogueViewer.Diagram.Kind
import CatalogueViewer.Diagram.GroupHeader
import CatalogueViewer.Engine.Basic
import CatalogueViewer.Text.Frame

/-!
# The preview engine

An engine for terminals.  It does not lay diagrams out: it checks the source with a few strict rules
and puts it into a frame.  A source with unbalanced quotes, or a flowchart with unbalanced brackets,
is at fault; a group title without quotes that is not a plain identifier makes the engine fail.
-/

namespace CatalogueViewer.Preview

open Text Diagram

/-! ### Balance -/

/-- What is out of balance in a line. -/
inductive Imbalance where
  | unexpected (c : Char)
  | unterminated
  | unclosed (c : Char)
  deriving DecidableEq, Repr

def Imbalance.describe : Imbalance → List Char
  | unexpected c => "unexpected '".toList ++ [c, '\'']
  | unterminated => "unterminated string".toList
  | unclosed c => "unclosed '".toList ++ [c, '\'']

/-- The bracket that a closing bracket closes. -/
def opening? : Char → Option Char
  | ')' => some '('
  | ']' => some '['
  | '}' => some '{'
  | _ => none

def isOpening (c : Char) : Bool := c == '(' || c == '[' || c == '{'

/-- Reads a line with the brackets `open` still to be closed, the latest first, inside or outside
quotes. -/
def imbalance? (brackets : Bool) (opened : List Char) (quoted : Bool) :
    List Char → Option Imbalance
  | [] =>
    if quoted then some .unterminated
    else match opened with
      | [] => none
      | c :: _ => some (.unclosed c)
  | c :: rest =>
    if c = '"' then imbalance? brackets opened (!quoted) rest
    else if quoted || !brackets then imbalance? brackets opened quoted rest
    else if isOpening c then imbalance? brackets (c :: opened) quoted rest
    else
      match opening? c, opened with
      | none, _ => imbalance? brackets opened quoted rest
      | some _, [] => some (.unexpected c)
      | some o, p :: others =>
        if o = p then imbalance? brackets others quoted rest else some (.unexpected c)

/-- Comment lines are not checked. -/
def isComment (line : List Char) : Bool := ['%', '%'].isPrefixOf (trimStart line)

def lineImbalance? (brackets : Bool) (line : List Char) : Option Imbalance :=
  if isComment line then none else imbalance? brackets [] false line

/-- The first line out of balance, with its number; the first of the lines has number `n`. -/
def firstImbalance? (brackets : Bool) (n : Nat) : List (List Char) → Option (Nat × Imbalance)
  | [] => none
  | line :: rest =>
    match lineImbalance? brackets line with
    | some fault => some (n, fault)
    | none => firstImbalance? brackets (n + 1) rest

/-- The first line of a source that is out of balance. -/
def checkBalance (source : List Char) (brackets : Bool) : Except (Nat × Imbalance) Unit :=
  match firstImbalance? brackets 1 (lines source) with
  | none => .ok ()
  | some fault => .error fault

def balanceError (fault : Nat × Imbalance) : EngineError :=
  .badSource ("Parse error on line " ++ toString fault.1 ++ ": " ++
    String.ofList fault.2.describe)

/-! ### Group titles -/

/-- Why a group title is not taken. -/
inductive BadTitle where
  | character (c : Char) (id : List Char)
  | blank (title : List Char)
  deriving DecidableEq, Repr

def BadTitle.error : BadTitle → EngineError
  | character c id =>
    .internal (String.ofList
      ("unsupported character '".toList ++ c :: ("' in subgraph id '".toList ++ id ++ ['\''])))
  | blank title =>
    .internal (String.ofList
      ("unquoted subgraph title '".toList ++ title ++ "' contains whitespace".toList))

def isIdChar (c : Char) : Bool := isAlphanumeric c || c == '_' || c == '-'

/-- What follows the word of a group header, without blanks around it. -/
def groupTitle? (line : List Char) : Option (List Char) :=
  let body := trimStart line
  if GroupHeader.keyword.isPrefixOf body then
    match body.drop GroupHeader.keyword.length with
    | [] => none
    | c :: rest => if isTabOrSpace c then some (trim (c :: rest)) else none
  else none

/-- Without quotes a title is an identifier, and a bracket is all that may follow. -/
def badTitle? (title : List Char) : Option BadTitle :=
  if title.head? = some '"' then none
  else
    let (id, tail) := title.span fun c => !isTabOrSpace c && c != '['
    match id.find? (!isIdChar ·) with
    | some c => some (.character c id)
    | none =>
      match trimStart tail with
      | [] => none
      | c :: _ => if c = '[' then none else some (.blank title)

def lineBadTitle? (line : List Char) : Option BadTitle := (groupTitle? line).bind badTitle?

/-- The first bad title of a source is its fault. -/
def checkTitles (source : List Char) : Except BadTitle Unit :=
  match (lines source).findSome? lineBadTitle? with
  | none => .ok ()
  | some fault => .error fault

/-! ### Drawings -/

/-- The widest line of a source that is shown in full. -/
def maxWidth : Nat := 96

/-- The framed source, unless a check fails. -/
def draw (source : List Char) : Except EngineError (List Char) := do
  let kind := Kind.detect? source
  (checkBalance source (kind == some .flowchart)).mapError balanceError
  (checkTitles source).mapError BadTitle.error
  let label := (kind.map Kind.name).getD "diagram"
  .ok (frame maxWidth label.toList source)

def answer (attempt : AttemptId) (source : String) : Except EngineError Drawing :=
  (draw source.toList).map fun body => ⟨attempt, String.ofList body⟩

end CatalogueViewer.Preview

namespace CatalogueViewer.Engine

/-- The preview engine answers at once and remembers nothing. -/
def preview : Engine := fun _ call => { answer := Preview.answer call.attempt call.source }

/-! ### Scripted engines -/

structure ScriptStep where
  delay : Nat
  teardown : Option Nat
  answer : Except EngineError String

/-- Answers its calls as prescribed; beyond that, with the source between tags. -/
def scripted (script : List ScriptStep) : Engine := fun events call =>
  match script[(events.filterMap EngineEvent.call?).length]? with
  | some step =>
    { delay := step.delay, teardown := step.teardown,
      answer := step.answer.map fun body => ⟨call.attempt, body⟩ }
  | none => { answer := .ok ⟨call.attempt, "<svg>" ++ call.source ++ "</svg>"⟩ }

end CatalogueViewer.Engine
