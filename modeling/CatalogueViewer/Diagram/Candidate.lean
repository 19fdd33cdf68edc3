import CatalogueViewer.Diagram.Feature
import CatalogueViewer.Diagram.HeaderRules

/-!
# Candidates

A text is taken for a diagram if it is long enough, starts with a keyword and shows some structure.
`prepare` gives such a text the form in which the engine gets it.
-/

namespace CatalogueViewer.Diagram

open Text

/-- Why a text is no diagram. -/
inductive Rejection where
  | tooShort
  | unknownKeyword
  | noStructure (kind : Kind)
  deriving DecidableEq, Repr

/-- Shorter texts are never diagrams. -/
def minLength : Nat := 10

def Rejection.message : Rejection → String
  | tooShort => "candidate is shorter than " ++ toString minLength ++ " characters"
  | unknownKeyword => "candidate does not start with a known diagram keyword"
  | noStructure kind => kind.name ++ " candidate contains no diagram structure"

def prevalidate (text : List Char) : Except Rejection Kind :=
  if text.length < minLength then .error .tooShort
  else
    match Kind.detect? text with
    | none => .error .unknownKeyword
    | some kind =>
      if Feature.all.any fun f => f.pattern.occursIn text then .ok kind
      else .error (.noStructure kind)

def looksLikeDiagram (text : List Char) : Bool :=
  match prevalidate (trim text) with
  | .ok _ => true
  | .error _ => false

/-- A diagram in the form for the engine. -/
structure Prepared where
  kind : Kind
  source : String
  deriving DecidableEq, Repr

/-- What becomes of a text before any engine sees it. -/
inductive Preparation where
  | ready (diagram : Prepared)
  /-- The text is blank. -/
  | noContent
  | rejected (reason : Rejection)
  deriving DecidableEq, Repr

def prepare (text : String) : Preparation :=
  let candidate := unify text.toList
  if candidate.isEmpty then .noContent
  else
    match prevalidate candidate with
    | .ok kind => .ready ⟨kind, String.ofList (normalize candidate)⟩
    | .error reason => .rejected reason

end CatalogueViewer.Diagram
