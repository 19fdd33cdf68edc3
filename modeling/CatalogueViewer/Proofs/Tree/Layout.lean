import CatalogueViewer.Proofs.Tree.Rebuilding
import Mathlib.Data.List.FinRange

/-!
# The layout of an assembled payload

A layout is a forest of positions of a payload; `placeAll` puts the records there.  Every payload
has a layout with each position in one place, and there assembly puts its records:
`assemble_eq_placeAll`.
-/

namespace CatalogueViewer.Assembly

mutual

/-- The record at the root of a layout, with those below it after its own children. -/
def place (records : List Record) : Rose (Fin records.length) → Record
  | .node i below => records[i].addChildren (placeAll records below)

def placeAll (records : List Record) : List (Rose (Fin records.length)) → List Record
  | [] => []
  | t :: rest => place records t :: placeAll records rest

end

/-- The positions of a layout in pre-order. -/
def positions {n : Nat} (layout : List (Rose (Fin n))) : List (Fin n) :=
  (Rose.forestPreorder layout).map Rose.value

/-- The record at `child` names the record at `parent`, which is another one and the first with
its id. -/
structure Names (records : List Record) (child parent : Fin records.length) : Prop where
  named : records[child].value.parent = some records[parent].value.id
  first : ∀ k < parent, records[k].value.id ≠ records[parent].value.id
  other : child ≠ parent

/-! ### Growing a layout -/

variable {n : Nat} {l : Links} {roots : List Nat}

/-- The positions that go below `i`. -/
def below (l : Links) (roots : List Nat) (i : Fin n) : List (Fin n) :=
  (List.finRange n).filter fun j => l.parent? j == some i.val && !roots.contains j.val

/-- The layout at `i`, within `depth` levels. -/
def grow (l : Links) (roots : List Nat) : (depth : Nat) → Fin n → List (Rose (Fin n))
  | 0, _ => []
  | depth + 1, i => [.node i ((below l roots i).flatMap (grow l roots depth))]

theorem mem_below_iff {i j : Fin n} :
    j ∈ below l roots i ↔ l.parent? j = some i.val ∧ j.val ∉ roots := by
  simp [below, List.mem_finRange]

theorem nodup_below (i : Fin n) : (below l roots i).Nodup := (List.nodup_finRange n).filter _

theorem pairwise_below (i : Fin n) : (below l roots i).Pairwise (· < ·) := by
  have ordered : ((List.finRange n).map Fin.val).Pairwise (· < ·) := by
    rw [List.map_coe_finRange_eq_range]
    exact List.pairwise_lt_range
  exact (List.pairwise_map.mp ordered).filter _

theorem attached_eq_map_below (count : l.count = n) (i : Fin n) :
    l.attached roots i.val = (below l roots i).map Fin.val := by
  unfold Links.attached below
  rw [count, ← List.map_coe_finRange_eq_range, List.filter_map]
  rfl

theorem placeAll_append (records : List Record) (xs ys : List (Rose (Fin records.length))) :
    placeAll records (xs ++ ys) = placeAll records xs ++ placeAll records ys := by
  induction xs with
  | nil => rfl
  | cons t rest ih => simp [placeAll, ih]

theorem placeAll_flatMap (records : List Record) (is : List (Fin records.length))
    (f : Fin records.length → List (Rose (Fin records.length))) :
    placeAll records (is.flatMap f) = is.flatMap fun i => placeAll records (f i) := by
  induction is with
  | nil => rfl
  | cons i rest ih => simp [placeAll_append, ih]

/-- Nesting places the records of a layout. -/
theorem nest_eq_placeAll {records : List Record} (count : l.count = records.length) (depth : Nat)
    (i : Fin records.length) :
    nest records.toArray l roots depth i.val = placeAll records (grow l roots depth i) := by
  induction depth generalizing i with
  | zero => rfl
  | succ depth ih =>
    have here : records.toArray[i.val]? = some records[i] := by simp
    simp only [nest, here, grow, placeAll, place, placeAll_flatMap, attached_eq_map_below count,
      List.flatMap_map, ih]

/-! ### Each position in one place -/

theorem positions_flatMap (is : List (Fin n)) (f : Fin n → List (Rose (Fin n))) :
    positions (is.flatMap f) = is.flatMap fun i => positions (f i) := by
  induction is with
  | nil => rfl
  | cons i rest ih =>
    rw [List.flatMap_cons, List.flatMap_cons, ← ih]
    simp [positions, Rose.forestPreorder_append]

theorem positions_grow_succ (depth : Nat) (i : Fin n) :
    positions (grow l roots (depth + 1) i) =
      i :: (below l roots i).flatMap fun j => positions (grow l roots depth j) := by
  rw [← positions_flatMap]
  simp [grow, positions, Rose.forestPreorder, Rose.preorder, Rose.value]

theorem positions_grow_one (i : Fin n) : positions (grow l roots 1 i) = [i] := by
  have nothing : ((below l roots i).flatMap fun j => positions (grow l roots 0 j)) = [] :=
    List.flatMap_eq_nil_iff.mpr fun _ _ => rfl
  rw [positions_grow_succ, nothing]

theorem count_cons_eq_add (i k : Fin n) (rest : List (Fin n)) :
    (i :: rest).count k = [i].count k + rest.count k := by
  have split : i :: rest = [i] ++ rest := rfl
  rw [split, List.count_append]

/-- Counting over a list of pieces, where each adds its own position and what a smaller one adds
for another position. -/
theorem count_flatMap_eq_add {f g : Fin n → List (Fin n)} {k p : Fin n}
    (each : ∀ i, (f i).count k = [i].count k + (g i).count p) (is : List (Fin n)) :
    (is.flatMap f).count k = is.count k + (is.flatMap g).count p := by
  induction is with
  | nil => rfl
  | cons i rest ih =>
    rw [List.flatMap_cons, List.flatMap_cons, List.count_append, List.count_append, ih, each,
      count_cons_eq_add i k rest]
    omega

theorem count_flatMap_eq {f : Fin n → List (Fin n)} {k : Fin n}
    (each : ∀ i, (f i).count k = [i].count k) (is : List (Fin n)) :
    (is.flatMap f).count k = is.count k := by
  have split := count_flatMap_eq_add (g := fun _ => []) (p := k) (by simpa using each) is
  rw [List.flatMap_eq_nil_iff.mpr fun _ _ => rfl] at split
  exact split

/-- A linked position stands below its parent wherever the parent stands. -/
theorem count_grow_of_link {k p : Fin n} (linked : l.parent? k = some p.val)
    (attached : k.val ∉ roots) (depth : Nat) (i : Fin n) :
    (positions (grow l roots (depth + 1) i)).count k =
      [i].count k + (positions (grow l roots depth i)).count p := by
  induction depth generalizing i with
  | zero =>
    rw [positions_grow_one]
    rfl
  | succ depth ih =>
    have once : (below l roots i).count k = [i].count p := by
      rw [(nodup_below i).count, (List.nodup_singleton i).count]
      simp [mem_below_iff, linked, attached, Fin.ext_iff]
    have rest := count_flatMap_eq_add ih (below l roots i)
    rw [positions_grow_succ (depth + 1), positions_grow_succ depth, count_cons_eq_add i k,
      count_cons_eq_add i p, rest, once]

/-- A root stands nowhere below another position. -/
theorem count_grow_of_root {k : Fin n} (member : k.val ∈ roots) (depth : Nat) (i : Fin n) :
    (positions (grow l roots (depth + 1) i)).count k = [i].count k := by
  induction depth generalizing i with
  | zero => rw [positions_grow_one]
  | succ depth ih =>
    have absent : (below l roots i).count k = 0 :=
      List.count_eq_zero.mpr fun here => (mem_below_iff.mp here).2 member
    rw [positions_grow_succ, count_cons_eq_add, count_flatMap_eq ih, absent, Nat.add_zero]

/-- A position that climbs to a root stands in exactly one place. -/
theorem count_positions (closed : l.Closed) (count : l.count = n) {rs : List (Fin n)}
    (same : rs.map Fin.val = roots) (distinct : rs.Nodup) {k : Fin n} {steps depth : Nat}
    (climbs : l.Climbs roots k.val steps) (deep : steps < depth) :
    (positions (rs.flatMap (grow l roots depth))).count k = 1 := by
  have mem_iff : ∀ i : Fin n, i.val ∈ roots ↔ i ∈ rs := by
    intro i
    simp [← same, Fin.val_inj]
  obtain ⟨depth, rfl⟩ := Nat.exists_eq_succ_of_ne_zero (Nat.ne_zero_of_lt deep)
  rw [positions_flatMap]
  induction steps generalizing k depth with
  | zero =>
    cases climbs with
    | root member =>
      rw [count_flatMap_eq (count_grow_of_root member depth)]
      exact List.count_eq_one_of_mem distinct ((mem_iff k).mp member)
  | succ steps ih =>
    cases climbs with
    | @link _ p _ unrooted linked climbs =>
      have inside : p < n := count ▸ closed k.val p linked
      have absent : rs.count k = 0 :=
        List.count_eq_zero.mpr fun member => unrooted ((mem_iff k).mpr member)
      obtain ⟨depth, rfl⟩ := Nat.exists_eq_succ_of_ne_zero (n := depth) (by omega)
      rw [count_flatMap_eq_add (count_grow_of_link (p := ⟨p, inside⟩) linked unrooted _), absent,
        ih (k := ⟨p, inside⟩) climbs _ (by omega)]

/-! ### What stands below what -/

theorem mem_forestPreorder_flatMap {is : List (Fin n)} {f : Fin n → List (Rose (Fin n))}
    {t : Rose (Fin n)} :
    t ∈ Rose.forestPreorder (is.flatMap f) ↔ ∃ i ∈ is, t ∈ Rose.forestPreorder (f i) := by
  induction is with
  | nil => simp [Rose.forestPreorder]
  | cons i rest ih =>
    rw [List.flatMap_cons, Rose.forestPreorder_append, List.mem_append, ih]
    simp

theorem values_grow_sublist (depth : Nat) (is : List (Fin n)) :
    ((is.flatMap (grow l roots depth)).map Rose.value).Sublist is := by
  induction is with
  | nil => exact List.Sublist.refl _
  | cons i rest ih =>
    cases depth with
    | zero => exact ih.cons i
    | succ depth => exact ih.cons_cons i

theorem children_of_mem_grow {t : Rose (Fin n)} {depth : Nat} {i : Fin n}
    (member : t ∈ Rose.forestPreorder (grow l roots depth i)) :
    ∃ d, t.children = (below l roots t.value).flatMap (grow l roots d) := by
  induction depth generalizing i with
  | zero => cases member
  | succ depth ih =>
    simp only [grow, Rose.forestPreorder, Rose.preorder, List.append_nil, List.mem_cons] at member
    rcases member with same | inside
    · subst same
      exact ⟨depth, rfl⟩
    · obtain ⟨j, _, here⟩ := mem_forestPreorder_flatMap.mp inside
      exact ih here

/-! ### Assembly -/

theorem exists_map_val_eq {is : List Nat} (inside : ∀ i ∈ is, i < n) :
    ∃ rs : List (Fin n), rs.map Fin.val = is :=
  ⟨is.pmap Fin.mk inside, by simp [List.map_pmap]⟩

/-- Assembly grows a layout from the roots and places the records there. -/
theorem assemble_eq_grow {records : List Record} {rs : List (Fin records.length)}
    (same : rs.map Fin.val = (Links.ofRecords records).roots) :
    assemble records = placeAll records (rs.flatMap
      (grow (Links.ofRecords records) (Links.ofRecords records).roots records.length)) := by
  have count := Links.count_ofRecords records
  have outer (f : Nat → List Record) :
      (Links.ofRecords records).roots.flatMap f = rs.flatMap fun i => f i.val := by
    rw [← same, List.flatMap_map]
  rw [assemble_eq_nestAll]
  unfold nestAll
  dsimp only
  rw [placeAll_flatMap, count, outer]
  simp only [nest_eq_placeAll count]

theorem names_of_parent? {records : List Record} {i j : Fin records.length}
    (linked : (Links.ofRecords records).parent? j = some i.val) : Names records j i := by
  obtain ⟨r, id, found, parent, position, different⟩ :=
    Links.parent?_ofRecords_eq_some_iff.mp linked
  obtain ⟨s, place, same, before⟩ := Links.position?_eq_some_iff.mp position
  have child : records[j] = r :=
    Option.some.inj ((List.getElem?_eq_getElem j.isLt).symm.trans found)
  have above : records[i] = s :=
    Option.some.inj ((List.getElem?_eq_getElem i.isLt).symm.trans place)
  subst same
  refine ⟨by rw [child, parent, above], fun k lower => ?_, fun equal => different ?_⟩
  · rw [above]
    exact before k lower _ (List.getElem?_eq_getElem k.isLt)
  · rw [equal]

/-- Assembly puts every record of a payload in exactly one place, whatever its links: after the
children that a record brought along stand, in payload order, others that name it as their
parent. -/
theorem assemble_eq_placeAll (records : List Record) :
    ∃ layout : List (Rose (Fin records.length)),
      assemble records = placeAll records layout ∧
        (positions layout).Perm (List.finRange records.length) ∧
        ∀ t ∈ Rose.forestPreorder layout,
          (t.children.map Rose.value).Pairwise (· < ·) ∧
            ∀ c ∈ t.children, Names records c.value t.value := by
  have count := Links.count_ofRecords records
  have closed := Links.closed_ofRecords records
  have inside : ∀ i ∈ (Links.ofRecords records).roots, i < records.length := by
    rw [← count]
    exact fun i => Links.lt_count_of_mem_roots
  obtain ⟨rs, same⟩ := exists_map_val_eq inside
  have distinct : rs.Nodup := by
    apply List.Nodup.of_map Fin.val
    rw [same]
    exact Links.nodup_roots _
  refine ⟨_, assemble_eq_grow same, ?_, fun t member => ?_⟩
  · rw [List.perm_iff_count]
    intro k
    obtain ⟨steps, deep, climbs⟩ :=
      Links.exists_climbs_roots closed (i := k.val) (by rw [count]; exact k.isLt)
    rw [count] at deep
    rw [count_positions closed count same distinct climbs deep, List.count_finRange]
  · obtain ⟨i, _, here⟩ := mem_forestPreorder_flatMap.mp member
    obtain ⟨depth, children⟩ := children_of_mem_grow here
    rw [children]
    refine ⟨(pairwise_below t.value).sublist (values_grow_sublist depth _), fun c under => ?_⟩
    have member := (values_grow_sublist depth _).subset (List.mem_map_of_mem under)
    exact names_of_parent? (mem_below_iff.mp member).1

end CatalogueViewer.Assembly
