import CatalogueViewer.Tree.Assembly

/-!
# Nesting by parent links

What assembly comes to, whatever the order in which it goes about it: which records are roots, which
go below which, and the forest of them.  A record is a root if its parent is not in the payload;
where parents run in a cycle, the first record in payload order that is not reached from the roots
before it becomes a root.  Every other record goes below its parent, in payload order.
-/

namespace CatalogueViewer.Assembly

namespace Links

/-- Following at most `steps` links from `i` leads to a record without a parent or to one of
`roots`. -/
def reaches (l : Links) (roots : List Nat) : (steps : Nat) → Nat → Bool
  | 0, _ => false
  | steps + 1, i =>
    match l.parent? i with
    | none => true
    | some p => roots.contains i || reaches l roots steps p

/-- The roots that break cycles, given those found so far and the positions still to look at. -/
def cycleRoots (l : Links) (found : List Nat) : List Nat → List Nat
  | [] => found
  | i :: rest =>
    cycleRoots l (if l.reaches found (l.count + 1) i then found else found ++ [i]) rest

/-- The roots: records without a parent, then one for each cycle that these do not reach. -/
def roots (l : Links) : List Nat := l.unlinked ++ l.cycleRoots [] (List.range l.count)

/-- The records that go below `i`. -/
def attached (l : Links) (roots : List Nat) (i : Nat) : List Nat :=
  (List.range l.count).filter fun j => l.parent? j == some i && !roots.contains j

end Links

/-- The record at `i` with everything that goes below it, within `depth` levels. -/
def nest (records : Array Record) (l : Links) (roots : List Nat) : (depth : Nat) → Nat → List Record
  | 0, _ => []
  | depth + 1, i =>
    match records[i]? with
    | none => []
    | some r => [r.addChildren ((l.attached roots i).flatMap (nest records l roots depth))]

/-- The payload with every record below its parent. -/
def nestAll (records : List Record) : List Record :=
  let l := Links.ofRecords records
  let roots := l.roots
  roots.flatMap (nest records.toArray l roots l.count)

end CatalogueViewer.Assembly
