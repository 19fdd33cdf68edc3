import CatalogueViewer.Diagram.Candidate
import CatalogueViewer.Engine.Basic

/-!
# Results of rendering

What a diagram slot holds, and what a document shows for it.
-/

namespace CatalogueViewer

/-- What a slot holds. -/
inductive Result where
  | loading
  /-- The text is no diagram or the engine did not take it; it is shown as code. -/
  | invalid
  | error (message : String)
  | success (drawing : Drawing)
  deriving DecidableEq, Repr

/-- What a document shows in the place of a diagram. -/
inductive DiagramView where
  | pending
  | rendered (body : String)
  | failed (message : String)
  | code
  deriving DecidableEq, Repr

namespace Result

/-- No further change is to be expected. -/
def isTerminal : Result → Bool
  | loading => false
  | _ => true

def view : Result → DiagramView
  | loading => .pending
  | invalid => .code
  | error message => .failed message
  | success drawing => .rendered drawing.body

end Result

/-- The message for a blank text. -/
def noContent : String := "no content"

namespace Diagram

/-- The result of a text that needs no engine. -/
def Preparation.settled? : Preparation → Option Result
  | ready _ => none
  | noContent => some (.error CatalogueViewer.noContent)
  | rejected _ => some .invalid

end Diagram

/-- How a submission ended. -/
inductive Outcome where
  | committed (result : Result)
  /-- A later submission or a teardown came first; nothing was published. -/
  | superseded
  deriving DecidableEq, Repr

end CatalogueViewer
