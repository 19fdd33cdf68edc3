import CatalogueViewer.Tree.Walk

/-!
# Expanded sections

The set of expanded keys, in order, and the rows of the catalogue that it shows.
-/

namespace CatalogueViewer

/-- A set of keys, in ascending order. -/
structure Expansion where
  keys : List NodeKey
  deriving DecidableEq, Repr

namespace Expansion

def empty : Expansion := ⟨[]⟩

def contains (e : Expansion) (key : NodeKey) : Bool := e.keys.contains key

/-- Puts a key in its place among ascending keys, if it is not among them. -/
def place (key : NodeKey) : List NodeKey → List NodeKey
  | [] => [key]
  | k :: rest =>
    match key.order k with
    | .lt => key :: k :: rest
    | .eq => k :: rest
    | .gt => k :: place key rest

def insert (e : Expansion) (key : NodeKey) : Expansion := ⟨place key e.keys⟩

def erase (e : Expansion) (key : NodeKey) : Expansion := ⟨e.keys.filter (· ≠ key)⟩

def ofKeys (keys : List NodeKey) : Expansion := keys.foldl insert empty

/-- Adds or removes a key; the flag tells whether it is in the set afterwards. -/
def toggle (e : Expansion) (key : NodeKey) : Bool × Expansion :=
  if e.contains key then (false, e.erase key) else (true, e.insert key)

/-- A catalogue opens with the sections of the first level expanded. -/
def initial (forest : List PageTree) : List NodeKey :=
  (forest.filter fun t => !t.isLeaf).map fun t => t.value.key

/-- The section is expanded, so that the rows below it are visible. -/
def opens (e : Expansion) (t : PageTree) : Bool := !t.isLeaf && e.contains t.value.key

end Expansion

/-- The visible rows of a forest, from top to bottom. -/
def visibleRows (e : Expansion) (forest : List PageTree) : List PageTree :=
  (Walk.mk e.opens [forest]).toList

end CatalogueViewer
