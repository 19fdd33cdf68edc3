/-!
# Rose trees

A value with a list of trees below it.  `preorder` lists the subtrees of a forest, each before those
below it; `leveled` does the same with the level of each.
-/

namespace CatalogueViewer

/-- A value with trees below it. -/
inductive Rose (α : Type) where
  | node (value : α) (children : List (Rose α))
  deriving Repr

namespace Rose

variable {α β : Type}

def value : Rose α → α
  | node value _ => value

def children : Rose α → List (Rose α)
  | node _ children => children

def isLeaf (t : Rose α) : Bool := t.children.isEmpty

/-- The tree with more children after its own. -/
def addChildren (t : Rose α) (more : List (Rose α)) : Rose α := node t.value (t.children ++ more)

mutual

/-- The number of values in a tree. -/
def size : Rose α → Nat
  | node _ children => forestSize children + 1

def forestSize : List (Rose α) → Nat
  | [] => 0
  | t :: rest => t.size + forestSize rest

end

mutual

/-- The number of levels of a tree. -/
def height : Rose α → Nat
  | node _ children => forestHeight children + 1

def forestHeight : List (Rose α) → Nat
  | [] => 0
  | t :: rest => max t.height (forestHeight rest)

end

mutual

/-- The subtrees of a tree, each before those below it. -/
def preorder : Rose α → List (Rose α)
  | node value children => node value children :: forestPreorder children

def forestPreorder : List (Rose α) → List (Rose α)
  | [] => []
  | t :: rest => t.preorder ++ forestPreorder rest

end

mutual

/-- The values of a tree with their levels, in pre-order. -/
def leveled (level : Nat) : Rose α → List (Nat × α)
  | node value children => (level, value) :: forestLeveled (level + 1) children

def forestLeveled (level : Nat) : List (Rose α) → List (Nat × α)
  | [] => []
  | t :: rest => t.leveled level ++ forestLeveled level rest

end

mutual

/-- The tree of the images of the values, each computed with its level. -/
def mapLeveled (f : Nat → α → β) (level : Nat) : Rose α → Rose β
  | node value children => node (f level value) (forestMapLeveled f (level + 1) children)

/-- Maps the values of a forest whose roots are at `level`. -/
def forestMapLeveled (f : Nat → α → β) (level : Nat) : List (Rose α) → List (Rose β)
  | [] => []
  | t :: rest => t.mapLeveled f level :: forestMapLeveled f level rest

end

theorem size_pos (t : Rose α) : 0 < t.size := by
  cases t; simp [size]

theorem forestSize_append (xs ys : List (Rose α)) :
    forestSize (xs ++ ys) = forestSize xs + forestSize ys := by
  induction xs with
  | nil => simp [forestSize]
  | cons t rest ih => simp [forestSize, ih, Nat.add_assoc]

theorem size_eq (t : Rose α) : t.size = forestSize t.children + 1 := by
  cases t; rfl

theorem forestPreorder_append (xs ys : List (Rose α)) :
    forestPreorder (xs ++ ys) = forestPreorder xs ++ forestPreorder ys := by
  induction xs with
  | nil => simp [forestPreorder]
  | cons t rest ih => simp [forestPreorder, ih]

theorem preorder_eq (t : Rose α) : t.preorder = t :: forestPreorder t.children := by
  cases t; rfl

end Rose

end CatalogueViewer
