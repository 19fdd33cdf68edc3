import CatalogueViewer.Catalogue.Id
import CatalogueViewer.Engine.Settings
import CatalogueViewer.Text.Pattern

/-!
# Diagram engines

An engine turns source text into a drawing.  It is a function of everything that happened to it
before, so it may answer each call as it likes; an answer may take time.
-/

namespace CatalogueViewer

structure Drawing where
  attempt : AttemptId
  body : String
  deriving DecidableEq, Repr

/-- Why an engine gives no drawing. -/
inductive EngineError where
  /-- The engine finds fault with the source. -/
  | badSource (message : String)
  /-- The engine itself fails. -/
  | internal (message : String)
  deriving DecidableEq, Repr

namespace EngineError

def message : EngineError → String
  | badSource message => message
  | internal message => message

/-- Words by which an engine blames the source without saying so otherwise. -/
def sourceMarkers : List String := ["Syntax error", "Parse error", "Lexical error"]

/-- The source is to blame; another attempt on the same source would not help. -/
def blamesSource : EngineError → Bool
  | badSource _ => true
  | internal message =>
    sourceMarkers.any fun marker => (Text.Pattern.text marker).occursIn message.toList

end EngineError

structure Call where
  attempt : AttemptId
  source : String
  /-- The time of the call in milliseconds. -/
  time : Nat
  deriving DecidableEq, Repr

inductive EngineEvent where
  | configured (settings : EngineSettings)
  | called (call : Call)
  deriving DecidableEq, Repr

namespace EngineEvent

def settings? : EngineEvent → Option EngineSettings
  | configured settings => some settings
  | called _ => none

def call? : EngineEvent → Option Call
  | configured _ => none
  | called call => some call

end EngineEvent

/-- What an engine does with a call. -/
structure Reply where
  /-- The time until the answer, in milliseconds. -/
  delay : Nat := 0
  /-- A slot that is torn down right before the answer. -/
  teardown : Option Nat := none
  answer : Except EngineError Drawing

/-- The reply to a call after a history of events, the latest last. -/
abbrev Engine := List EngineEvent → Call → Reply

end CatalogueViewer
