import CatalogueViewer.Tree.Build

/-!
# Assembling a flat payload

In a flat payload a record names its parent by id.  `assemble` nests the records accordingly: it
goes through them breadth-first, from those without a parent in the payload and then from any that
a cycle of parents kept out of reach, and puts every record below the one it was reached from, after
the children that one brought along.
-/

namespace CatalogueViewer

namespace Assembly

/-- The parent links of a payload, by position. -/
structure Links where
  parents : Array (Option Nat)

namespace Links

/-- The position of the first record with an id. -/
def position? (records : List Record) (id : NodeKey) : Option Nat :=
  records.findIdx? fun r => r.value.id = id

/-- A record is linked to the first record with the id of its parent, never to itself. -/
def ofRecords (records : List Record) : Links where
  parents := (records.mapIdx fun i r =>
    match r.value.parent.bind (position? records) with
    | none => none
    | some p => if p = i then none else some p).toArray

def count (l : Links) : Nat := l.parents.size

def parent? (l : Links) (i : Nat) : Option Nat := l.parents[i]?.join

/-- The positions of the records without a parent in the payload. -/
def unlinked (l : Links) : List Nat := (List.range l.count).filter fun i => (l.parent? i).isNone

/-- A position comes last among those linked to its parent. -/
def enter (l : Links) (lists : Array (List Nat)) (i : Nat) : Array (List Nat) :=
  match l.parent? i with
  | none => lists
  | some p => lists.modify p (· ++ [i])

/-- For each position those linked to it. -/
def children (l : Links) : Array (List Nat) :=
  (List.range l.count).foldl l.enter (Array.replicate l.count [])

end Links

/-- How far the way through the records has come. -/
structure Pass where
  visited : Array Bool
  attachedTo : Array (Option Nat)
  level : Array Nat
  /-- The positions that are done, in the order in which they were. -/
  order : List Nat := []
  roots : List Nat := []
  /-- Those that are visited and not yet done. -/
  queue : List Nat := []

/-- What happens at a position that is visited below a root, at its level. -/
abbrev Visit (ε : Type) := Nat → Nat → Except ε Unit

namespace Pass

def new (count : Nat) : Pass where
  visited := Array.replicate count false
  attachedTo := Array.replicate count none
  level := Array.replicate count 0

def isVisited (p : Pass) (i : Nat) : Bool := p.visited.getD i true

def levelOf (p : Pass) (i : Nat) : Nat := p.level.getD i 0

def attachedTo? (p : Pass) (i : Nat) : Option Nat := p.attachedTo.getD i none

/-- A position goes below the current one. -/
def put (current : Nat) (p : Pass) (child : Nat) : Pass :=
  { p with
    visited := p.visited.setIfInBounds child true
    attachedTo := p.attachedTo.setIfInBounds child (some current)
    level := p.level.setIfInBounds child (p.levelOf current + 1)
    queue := p.queue ++ [child] }

/-- A position linked to the current one is visited, unless that has happened before. -/
def attach (visit : Visit ε) (current : Nat) (p : Pass) (child : Nat) : Except ε Pass :=
  if p.isVisited child then .ok p
  else do
    visit child (p.levelOf current + 1)
    return p.put current child

/-- The number of positions not visited. -/
def unvisited (p : Pass) : Nat := p.visited.count false

/-- The number of visits to come, of those already in the queue and of others. -/
def pending (p : Pass) : Nat := p.unvisited + p.queue.length

theorem getElem?_of_not_isVisited {p : Pass} {i : Nat} (fresh : p.isVisited i = false) :
    p.visited[i]? = some false := by
  rw [isVisited, Array.getD_eq_getD_getElem?] at fresh
  cases found : p.visited[i]? with
  | none => simp [found] at fresh
  | some seen => simpa [found] using fresh

theorem pending_put {p : Pass} {current child : Nat} (fresh : p.isVisited child = false) :
    (p.put current child).pending = p.pending := by
  obtain ⟨inside, same⟩ := Array.getElem?_eq_some_iff.mp (getElem?_of_not_isVisited fresh)
  have some : 0 < p.visited.count false :=
    Array.count_pos_iff.mpr (same ▸ Array.getElem_mem inside)
  simp only [pending, unvisited, put, Array.setIfInBounds, dif_pos inside, Array.count_set, same,
    List.length_append, List.length_singleton, beq_self_eq_true, if_true, Bool.true_beq,
    Bool.false_eq_true, if_false]
  omega

theorem pending_attach {visit : Visit ε} {current child : Nat} {p q : Pass}
    (attached : p.attach visit current child = .ok q) : q.pending = p.pending := by
  unfold attach at attached
  split at attached
  · cases attached
    rfl
  · next fresh =>
    cases visited : visit child (p.levelOf current + 1) with
    | error e =>
      rw [visited] at attached
      cases attached
    | ok =>
      rw [visited] at attached
      cases attached
      exact pending_put (Bool.eq_false_iff.mpr fresh)

theorem pending_attachAll {visit : Visit ε} {current : Nat} {children : List Nat} {p q : Pass}
    (attached : children.foldlM (attach visit current) p = .ok q) : q.pending = p.pending := by
  induction children generalizing p with
  | nil =>
    cases attached
    rfl
  | cons child rest ih =>
    rw [List.foldlM_cons] at attached
    cases first : p.attach visit current child with
    | error e =>
      rw [first] at attached
      cases attached
    | ok next =>
      rw [first] at attached
      rw [ih attached, pending_attach first]

/-- The position next in the queue is done, and those linked to it go to the end. -/
def advance (visit : Visit ε) (children : Array (List Nat)) (current : Nat) (rest : List Nat)
    (p : Pass) : Except ε Pass :=
  (children.getD current []).foldlM (attach visit current)
    { p with order := p.order ++ [current], queue := rest }

/-- Goes on until the queue is empty. -/
def drain (visit : Visit ε) (children : Array (List Nat)) (p : Pass) : Except ε Pass :=
  match _ : p.queue with
  | [] => .ok p
  | current :: rest =>
    match _ : p.advance visit children current rest with
    | .error e => .error e
    | .ok q => q.drain visit children
termination_by p.pending
decreasing_by
  rename_i queue advanced
  rw [pending_attachAll advanced]
  simp [pending, unvisited, queue]

/-- A position that has not been reached is a root. -/
def start (visit : Visit ε) (children : Array (List Nat)) (p : Pass) (i : Nat) : Except ε Pass :=
  if p.isVisited i then .ok p
  else
    { p with
      visited := p.visited.setIfInBounds i true
      roots := p.roots ++ [i]
      queue := [i] }.drain visit children

/-- First the records without a parent, then any that these did not lead to. -/
def run (visit : Visit ε) (l : Links) : Except ε Pass :=
  (l.unlinked ++ List.range l.count).foldlM (start visit l.children) (new l.count)

/-- The record at a position with those attached to it, which are built already. -/
def buildOne (records : Array Record) (children : Array (List Nat)) (p : Pass)
    (built : Array (Option Record)) (i : Nat) : Array (Option Record) :=
  match records[i]? with
  | none => built
  | some r =>
    let attached := (children.getD i []).filter fun j => p.attachedTo? j == some i
    built.setIfInBounds i (some (r.addChildren (attached.filterMap fun j => built.getD j none)))

/-- From the last position to the first, so each record is built after those attached to it. -/
def build (records : Array Record) (children : Array (List Nat)) (p : Pass) :
    Array (Option Record) :=
  p.order.reverse.foldl (buildOne records children p) (Array.replicate records.size none)

end Pass

end Assembly

open Assembly in
/-- The payload with every record below its parent, unless the visit of one of these fails. -/
def assembleWith (visit : Record → Nat → Except ε Unit) (records : List Record) :
    Except ε (List Record) :=
  let l := Links.ofRecords records
  if l.parents.all Option.isNone then .ok records
  else do
    let p ← Pass.run (fun i level =>
      match records.toArray[i]? with
      | none => .ok ()
      | some r => visit r level) l
    let built := p.build records.toArray l.children
    return p.roots.filterMap fun i => built.getD i none

/-- The payload with every record below its parent. -/
def assemble (records : List Record) : List Record :=
  match assembleWith (ε := Empty) (fun _ _ => .ok ()) records with
  | .ok forest => forest

/-- Like `assemble`, but refuses links that lead deeper than `maxDepth` levels. -/
def assembleChecked (maxDepth : Nat) : List Record → Except TreeError (List Record) :=
  assembleWith fun r level =>
    if maxDepth ≤ level then .error (.depthExceeded r.value.id (level + 1) maxDepth) else .ok ()

end CatalogueViewer
