import CatalogueViewer.Tree.Page

/-!
# Building the tree of pages

`Builder.run` builds a forest of pages from a forest of records without recursion on the depth of
the records: it keeps the unfinished pages on a stack.  A visitor sees every record in pre-order
with its level, carries a state from one to the next and may stop the run.  `buildChecked` visits
with the limits of a catalogue: no level beyond the deepest allowed one, no id twice.
-/

namespace CatalogueViewer

inductive TreeError where
  /-- The record `key` stands at level `depth`, counted from one. -/
  | depthExceeded (key : NodeKey) (depth maxDepth : Nat)
  | duplicateKey (key : NodeKey)
  deriving DecidableEq, Repr

def TreeError.message : TreeError → String
  | depthExceeded key depth maxDepth =>
    "catalogue node " ++ key.text ++ " is nested " ++ toString depth ++ " levels deep (max " ++
      toString maxDepth ++ ")"
  | duplicateKey key => "duplicate catalogue id: " ++ key.text

/-- A visitor of records with state `σ` and failure `ε`. -/
abbrev Visitor (σ ε : Type) := σ → Nat → Record → Except ε σ

namespace Builder

/-- A page whose children are not all built: what is done at its own level and what waits there. -/
structure Frame where
  entry : Entry
  /-- The finished siblings before it, the latest first. -/
  done : List PageTree
  /-- The siblings after it. -/
  waiting : List Record

/-- The work left on the stack. -/
def pending : List Frame → Nat
  | [] => 0
  | f :: rest => 2 * Rose.forestSize f.waiting + 1 + pending rest

/-- Builds what waits at the current level, whose pages are finished up to `done`, below the
unfinished pages of `stack`. -/
def run (visit : Visitor σ ε) (state : σ) (waiting : List Record) (done : List PageTree)
    (stack : List Frame) : Except ε (List PageTree) :=
  match waiting, stack with
  | r :: rest, stack =>
    match visit state stack.length r with
    | .error e => .error e
    | .ok state => run visit state r.children [] (⟨r.value, done, rest⟩ :: stack)
  | [], [] => .ok done.reverse
  | [], f :: stack =>
    run visit state f.waiting (.node (.ofEntry stack.length f.entry) done.reverse :: f.done) stack
termination_by 2 * Rose.forestSize waiting + pending stack
decreasing_by
  · simp only [pending, Rose.forestSize, Rose.size_eq r]; omega
  · simp only [pending, Rose.forestSize]; omega

end Builder

/-- The forest of pages, unless the visitor stops. -/
def buildWith (visit : Visitor σ ε) (state : σ) (records : List Record) :
    Except ε (List PageTree) :=
  Builder.run visit state records [] []

/-- The forest of pages of any records. -/
def build (records : List Record) : List PageTree :=
  match buildWith (ε := Empty) (fun s _ _ => .ok s) () records with
  | .ok tree => tree

/-- Stops at a level beyond the deepest allowed one, then at an id seen before. -/
def checkRecord (maxDepth : Nat) : Visitor (List NodeKey) TreeError := fun seen level r =>
  if maxDepth ≤ level then .error (.depthExceeded r.value.id (level + 1) maxDepth)
  else if r.value.id ∈ seen then .error (.duplicateKey r.value.id)
  else .ok (r.value.id :: seen)

/-- The forest of pages, of records within `maxDepth` levels and with distinct ids. -/
def buildChecked (maxDepth : Nat) (records : List Record) : Except TreeError (List PageTree) :=
  buildWith (checkRecord maxDepth) [] records

end CatalogueViewer
