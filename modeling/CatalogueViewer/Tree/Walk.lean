import CatalogueViewer.Tree.Page

/-!
# Walking a forest

`Walk` goes through a forest one tree at a time, each before those below it.  It holds the siblings
that are still to come on each level, and goes below a tree only where it may.  Searches take the
first match of a walk.
-/

namespace CatalogueViewer

structure Walk (α : Type) where
  /-- Whether the walk goes on below a tree. -/
  enters : Rose α → Bool
  /-- The siblings still to visit, those of the lowest level first. -/
  frames : List (List (Rose α))

namespace Walk

variable {α : Type}

def ofForest (forest : List (Rose α)) : Walk α := ⟨fun t => !t.isLeaf, [forest]⟩

/-- The next tree and the frames after it.  Frames without a tree are dropped on the way. -/
def pull? (enters : Rose α → Bool) :
    List (List (Rose α)) → Option (Rose α × List (List (Rose α)))
  | [] => none
  | [] :: frames => pull? enters frames
  | (t :: rest) :: frames =>
    some (t, if enters t then t.children :: rest :: frames else rest :: frames)

def next? (w : Walk α) : Option (Rose α × Walk α) :=
  (pull? w.enters w.frames).map fun (t, frames) => (t, { w with frames })

/-- A bound on the trees still to visit. -/
def remaining (w : Walk α) : Nat := Rose.forestSize w.frames.flatten

theorem size_pull {enters : Rose α → Bool} {frames later : List (List (Rose α))} {t : Rose α}
    (pulled : pull? enters frames = some (t, later)) :
    Rose.forestSize later.flatten < Rose.forestSize frames.flatten := by
  induction frames with
  | nil => cases pulled
  | cons frame frames ih =>
    cases frame with
    | nil => exact ih pulled
    | cons u rest =>
      cases pulled
      have size := Rose.size_eq t
      split <;> simp only [List.flatten_cons, Rose.forestSize_append, Rose.forestSize] <;> omega

theorem remaining_next {w v : Walk α} {t : Rose α} (h : w.next? = some (t, v)) :
    v.remaining < w.remaining := by
  obtain ⟨⟨u, frames⟩, pulled, same⟩ := Option.map_eq_some_iff.mp h
  cases same
  exact size_pull pulled

def toList (w : Walk α) : List (Rose α) :=
  match _h : w.next? with
  | none => []
  | some (t, v) => t :: v.toList
termination_by w.remaining
decreasing_by exact remaining_next _h

def find? (p : Rose α → Bool) (w : Walk α) : Option (Rose α) :=
  match _h : w.next? with
  | none => none
  | some (t, v) => if p t then some t else v.find? p
termination_by w.remaining
decreasing_by exact remaining_next _h

end Walk

inductive Located where
  /-- A document, which may be selected. -/
  | leaf (tree : PageTree)
  /-- A section, which may not. -/
  | parent (tree : PageTree)

namespace Located

def tree : Located → PageTree
  | leaf tree => tree
  | parent tree => tree

def isParent : Located → Bool
  | leaf _ => false
  | parent _ => true

end Located

def firstDocument? (forest : List PageTree) : Option PageTree :=
  (Walk.ofForest forest).find? fun t => t.isLeaf && t.value.hasContent

def findPage? (forest : List PageTree) (key : NodeKey) : Option PageTree :=
  (Walk.ofForest forest).find? fun t => t.value.key = key

/-- The first page with a key, told apart by whether it may be selected. -/
def locate (forest : List PageTree) (key : NodeKey) : Option Located :=
  (findPage? forest key).map fun t => if t.isLeaf then .leaf t else .parent t

end CatalogueViewer
