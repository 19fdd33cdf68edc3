import CatalogueViewer.Proofs.Tree.Layout
import CatalogueViewer.Proofs.Tree.Preorder
import Mathlib.Logic.Relation
import Mathlib.Order.WellFounded

/-!
# Where cycles of parents are broken

A record whose parents never end has no root above it by nature.  Assembly makes such a record a
root if it stands before all records above it, and only then; so a cycle is broken at its first
member, but a record that hangs below a cycle and is listed before it is cut off as well:
`exists_layout_cut`.
-/

namespace CatalogueViewer.Assembly

open Relation

namespace Links

variable {l : Links} {roots found : List Nat} {i a p : Nat}

/-- `p` is the parent of `i`. -/
def Up (l : Links) (i p : Nat) : Prop := l.parent? i = some p

/-- The parents of `i` never end, and none above it stands before it. -/
structure Breaks (l : Links) (i : Nat) : Prop where
  endless : ∀ a, ReflTransGen l.Up i a → l.parent? a ≠ none
  first : ∀ a, TransGen l.Up i a → i ≤ a

theorem exists_climbs_iff : (∃ k, Climbs l roots i k) ↔ ∃ a ∈ roots, ReflTransGen l.Up i a := by
  constructor
  · rintro ⟨k, climbs⟩
    induction climbs with
    | @root i member => exact ⟨i, member, .refl⟩
    | link _ parent _ ih =>
      obtain ⟨a, member, way⟩ := ih
      exact ⟨a, member, .head parent way⟩
  · rintro ⟨a, member, way⟩
    induction way using ReflTransGen.head_induction_on with
    | refl => exact ⟨0, .root member⟩
    | @head i p up _ ih =>
      obtain ⟨k, climbs⟩ := ih
      by_cases here : i ∈ roots
      · exact ⟨0, .root here⟩
      · exact ⟨k + 1, .link here up climbs⟩

theorem lt_count_of_up (closed : l.Closed) (inside : i < l.count) (way : ReflTransGen l.Up i a) :
    a < l.count := by
  cases way with
  | refl => exact inside
  | tail _ up => exact closed _ _ up

theorem reaches_eq_true_iff (closed : l.Closed) (inside : i < l.count)
    (known : ∀ r ∈ found, r < l.count) :
    l.reaches found (l.count + 1) i = true ↔
      ∃ a ∈ l.unlinked ++ found, ReflTransGen l.Up i a := by
  rw [← exists_climbs_iff]
  constructor
  · exact exists_climbs_of_reaches closed inside
  · rintro ⟨k, climbs⟩
    have near := climbs.lt_count fun r member => by
      rcases List.mem_append.mp member with free | old
      · exact (mem_unlinked_iff.mp free).1
      · exact known r old
    exact climbs.reaches (Nat.lt_succ_of_lt near)

theorem Breaks.of_above {i a : Nat} (endless : ∀ b, ReflTransGen l.Up i b → l.parent? b ≠ none)
    (above : TransGen l.Up i a) (least : ∀ b, TransGen l.Up i b → a ≤ b) : Breaks l a where
  endless b way := endless b (above.to_reflTransGen.trans way)
  first b way := least b (above.trans way)

/-- With all roots before `i` found, `i` leads to one exactly if it breaks no cycle itself. -/
theorem reaches_iff_not_breaks (closed : l.Closed) (inside : i < l.count)
    (known : ∀ r, r ∈ found ↔ r < i ∧ Breaks l r) :
    l.reaches found (l.count + 1) i = true ↔ ¬ Breaks l i := by
  rw [reaches_eq_true_iff closed inside fun r member => ((known r).mp member).1.trans inside]
  constructor
  · rintro ⟨a, member, way⟩ breaks
    rcases List.mem_append.mp member with free | old
    · exact breaks.endless a way (mem_unlinked_iff.mp free).2
    · have before := ((known a).mp old).1
      rcases reflTransGen_iff_eq_or_transGen.mp way with same | above
      · omega
      · have late := breaks.first a above
        omega
  · intro whole
    by_cases endless : ∀ a, ReflTransGen l.Up i a → l.parent? a ≠ none
    · have earlier : ∃ a, TransGen l.Up i a ∧ a < i := by
        by_contra none
        push Not at none
        exact whole ⟨endless, none⟩
      -- The first of all records above breaks the cycle, and it stands before `i`.
      obtain ⟨b, above, before⟩ := earlier
      obtain ⟨a, above', least⟩ := WellFounded.has_min Nat.lt_wfRel.wf
        {a | TransGen l.Up i a} ⟨b, above⟩
      have lowest : ∀ c, TransGen l.Up i c → a ≤ c := fun c way => Nat.not_lt.mp (least c way)
      have early := lowest b above
      have broken : a ∈ found :=
        (known a).mpr ⟨by omega, Breaks.of_above endless above' lowest⟩
      exact ⟨a, List.mem_append_right _ broken, above'.to_reflTransGen⟩
    · push Not at endless
      obtain ⟨a, way, free⟩ := endless
      have top := mem_unlinked_iff.mpr ⟨lt_count_of_up closed inside way, free⟩
      exact ⟨a, List.mem_append_left _ top, way⟩

theorem mem_cycleRoots_range' (closed : l.Closed) (n m : Nat) (all : n + m = l.count)
    (known : ∀ r, r ∈ found ↔ r < n ∧ Breaks l r) :
    i ∈ l.cycleRoots found (List.range' n m) ↔ i < l.count ∧ Breaks l i := by
  induction m generalizing n found with
  | zero =>
    have same : n = l.count := by omega
    rw [← same]
    exact known i
  | succ m ih =>
    have reached := reaches_iff_not_breaks closed (i := n) (by omega) known
    rw [List.range'_succ, cycleRoots]
    apply ih (n + 1) (by omega)
    intro r
    have next : r < n + 1 ↔ r < n ∨ r = n := by omega
    rw [next]
    split
    · next leads =>
      have whole := reached.mp leads
      rw [known r]
      constructor
      · rintro ⟨before, breaks⟩
        exact ⟨Or.inl before, breaks⟩
      · rintro ⟨before | rfl, breaks⟩
        · exact ⟨before, breaks⟩
        · exact absurd breaks whole
    · next stays =>
      have breaks : Breaks l n := by
        by_contra whole
        exact stays (reached.mpr whole)
      rw [List.mem_append, List.mem_singleton, known r]
      constructor
      · rintro (⟨before, broken⟩ | rfl)
        · exact ⟨Or.inl before, broken⟩
        · exact ⟨Or.inr rfl, breaks⟩
      · rintro ⟨before | rfl, broken⟩
        · exact Or.inl ⟨before, broken⟩
        · exact Or.inr rfl

theorem mem_roots_iff (closed : l.Closed) :
    i ∈ l.roots ↔ i < l.count ∧ (l.parent? i = none ∨ Breaks l i) := by
  have cyclic : i ∈ l.cycleRoots [] (List.range' 0 l.count) ↔ i < l.count ∧ Breaks l i :=
    mem_cycleRoots_range' closed 0 l.count (Nat.zero_add _) (by simp)
  rw [roots, List.mem_append, mem_unlinked_iff, List.range_eq_range', cyclic, ← and_or_left]

end Links

/-! ### Records above a record -/

variable {records : List Record} {i a p : Fin records.length}

/-- Going from parent to parent leads from the record at `i` to the one at `a`. -/
def Above (records : List Record) (i a : Fin records.length) : Prop :=
  TransGen (Names records) i a

def OnCycle (records : List Record) (i : Fin records.length) : Prop := Above records i i

/-- The parents of the record at `i` never end. -/
def Endless (records : List Record) (i : Fin records.length) : Prop :=
  ∀ a, ReflTransGen (Names records) i a → ∃ p, Names records a p

def IsRoot (layout : List (Rose (Fin records.length))) (i : Fin records.length) : Prop :=
  i ∈ layout.map Rose.value

def IsBelow (layout : List (Rose (Fin records.length))) (i p : Fin records.length) : Prop :=
  ∃ t ∈ Rose.forestPreorder layout, t.value = p ∧ i ∈ t.children.map Rose.value

/-- Cycles are broken at their first members, and no other record is taken from its parent. -/
def CutsCyclesOnly (layout : List (Rose (Fin records.length))) : Prop :=
  ∀ i p, Names records i p →
    (IsRoot layout i ↔ OnCycle records i ∧ ∀ a, Above records i a → i ≤ a) ∧
      (¬ IsRoot layout i → IsBelow layout i p)

/-- A record that hangs below a cycle stands after one of the records above it. -/
def CyclesComeFirst (records : List Record) : Prop :=
  ∀ i, Endless records i → ¬ OnCycle records i → ∃ a, Above records i a ∧ a < i

theorem parent?_eq_some_iff_names :
    (Links.ofRecords records).parent? i = some p.val ↔ Names records i p := by
  refine ⟨names_of_parent?, fun names => ?_⟩
  rw [Links.parent?_ofRecords_eq_some_iff]
  refine ⟨records[i], records[p].value.id, List.getElem?_eq_getElem i.isLt, names.named, ?_, ?_⟩
  · rw [Links.position?_eq_some_iff]
    refine ⟨records[p], List.getElem?_eq_getElem p.isLt, rfl, fun k lower s found => ?_⟩
    obtain ⟨inside, rfl⟩ := List.getElem?_eq_some_iff.mp found
    exact names.first ⟨k, inside⟩ lower
  · exact fun same => names.other (Fin.ext same.symm)

theorem exists_names_iff :
    (∃ p, Names records i p) ↔ (Links.ofRecords records).parent? i ≠ none := by
  constructor
  · rintro ⟨p, names⟩ free
    rw [parent?_eq_some_iff_names.mpr names] at free
    cases free
  · intro linked
    obtain ⟨p, up⟩ := Option.ne_none_iff_exists'.mp linked
    have inside := Links.closed_ofRecords records _ _ up
    rw [Links.count_ofRecords] at inside
    exact ⟨⟨p, inside⟩, parent?_eq_some_iff_names.mp up⟩

theorem names_unique (one : Names records i a) (other : Names records i p) : a = p := by
  have same := (parent?_eq_some_iff_names.mpr one).symm.trans (parent?_eq_some_iff_names.mpr other)
  exact Fin.ext (Option.some.inj same)

theorem transGen_up_iff {b : Nat} :
    TransGen (Links.ofRecords records).Up i b ↔ ∃ a, a.val = b ∧ Above records i a := by
  constructor
  · intro way
    have position : ∀ {c p}, (Links.ofRecords records).Up c p → p < records.length := by
      intro c p up
      have inside := Links.closed_ofRecords records c p up
      rwa [Links.count_ofRecords] at inside
    induction way with
    | single up => exact ⟨⟨_, position up⟩, rfl, .single (parent?_eq_some_iff_names.mp up)⟩
    | tail _ up ih =>
      obtain ⟨a, rfl, above⟩ := ih
      exact ⟨⟨_, position up⟩, rfl, above.tail (parent?_eq_some_iff_names.mp up)⟩
  · rintro ⟨a, rfl, above⟩
    exact above.lift Fin.val fun _ _ names => parent?_eq_some_iff_names.mpr names

theorem breaks_iff :
    Links.Breaks (Links.ofRecords records) i ↔
      Endless records i ∧ ∀ a, Above records i a → i ≤ a := by
  constructor
  · intro breaks
    refine ⟨fun a way => exists_names_iff.mpr (breaks.endless a ?_), fun a above => ?_⟩
    · exact way.lift Fin.val fun _ _ names => parent?_eq_some_iff_names.mpr names
    · exact breaks.first a (transGen_up_iff.mpr ⟨a, rfl, above⟩)
  · rintro ⟨endless, first⟩
    refine ⟨fun b way => ?_, fun b way => ?_⟩
    · rcases reflTransGen_iff_eq_or_transGen.mp way with same | way
      · rw [same]
        exact exists_names_iff.mp (endless i .refl)
      · obtain ⟨a, rfl, above⟩ := transGen_up_iff.mp way
        exact exists_names_iff.mp (endless a above.to_reflTransGen)
    · obtain ⟨a, rfl, above⟩ := transGen_up_iff.mp way
      exact first a above

/-- Whoever stands above a member of a cycle is a member of it. -/
theorem endless_of_onCycle (cycle : OnCycle records i) : Endless records i := by
  intro a way
  have back : TransGen (Names records) a i := by
    induction way with
    | refl => exact cycle
    | tail _ names ih =>
      obtain ⟨b, up, rest⟩ := TransGen.head'_iff.mp ih
      obtain rfl := names_unique names up
      rcases reflTransGen_iff_eq_or_transGen.mp rest with same | onward
      · exact same ▸ cycle
      · exact onward
  obtain ⟨p, up, _⟩ := TransGen.head'_iff.mp back
  exact ⟨p, up⟩

/-! ### Roots of a layout -/

theorem values_grow {n depth : Nat} {l : Links} {roots : List Nat} (deep : 0 < depth)
    (is : List (Fin n)) : (is.flatMap (grow l roots depth)).map Rose.value = is := by
  obtain ⟨depth, rfl⟩ := Nat.exists_eq_succ_of_ne_zero (Nat.ne_zero_of_lt deep)
  induction is with
  | nil => rfl
  | cons i rest ih =>
    rw [List.flatMap_cons, List.map_append, ih]
    rfl

theorem names_of_child {l : Links} {roots : List Nat} {depth : Nat}
    {rs : List (Fin records.length)} {t c : Rose (Fin records.length)}
    (links : l = Links.ofRecords records)
    (member : t ∈ Rose.forestPreorder (rs.flatMap (grow l roots depth))) (child : c ∈ t.children) :
    Names records c.value t.value := by
  obtain ⟨i, _, here⟩ := mem_forestPreorder_flatMap.mp member
  obtain ⟨d, children⟩ := children_of_mem_grow here
  rw [children] at child
  have under := (values_grow_sublist d _).subset (List.mem_map_of_mem child)
  exact names_of_parent? (links ▸ (mem_below_iff.mp under).1)

theorem count_positions_roots {rs : List (Fin records.length)}
    (same : rs.map Fin.val = (Links.ofRecords records).roots) (i : Fin records.length) :
    (positions (rs.flatMap (grow (Links.ofRecords records) (Links.ofRecords records).roots
      records.length))).count i = 1 := by
  have count := Links.count_ofRecords records
  have closed := Links.closed_ofRecords records
  have distinct : rs.Nodup := by
    apply List.Nodup.of_map Fin.val
    rw [same]
    exact Links.nodup_roots _
  obtain ⟨steps, deep, climbs⟩ :=
    Links.exists_climbs_roots closed (i := i.val) (by rw [count]; exact i.isLt)
  rw [count] at deep
  exact count_positions closed count same distinct climbs deep

/-- A layout in which exactly the roots of the links stand at the top. -/
theorem exists_layout_of_roots (records : List Record) :
    ∃ layout : List (Rose (Fin records.length)),
      assemble records = placeAll records layout ∧
        (positions layout).Perm (List.finRange records.length) ∧
        (∀ i, IsRoot layout i ↔ i.val ∈ (Links.ofRecords records).roots) ∧
        ∀ t ∈ Rose.forestPreorder layout, ∀ c ∈ t.children, Names records c.value t.value := by
  have count := Links.count_ofRecords records
  obtain ⟨rs, same⟩ := exists_map_val_eq (n := records.length)
    fun i (member : i ∈ (Links.ofRecords records).roots) =>
      count ▸ Links.lt_count_of_mem_roots member
  refine ⟨_, assemble_eq_grow same, ?_, fun i => ?_, fun t member c child => ?_⟩
  · rw [List.perm_iff_count]
    intro i
    rw [count_positions_roots same, List.count_finRange]
  · rw [IsRoot, values_grow (Nat.zero_lt_of_lt i.isLt), ← same]
    simp [Fin.val_inj]
  · exact names_of_child rfl member child

/-- Everything that is not at the top stands below its parent, and below nothing else. -/
theorem isBelow_of_not_isRoot {layout : List (Rose (Fin records.length))}
    (all : (positions layout).Perm (List.finRange records.length))
    (below : ∀ t ∈ Rose.forestPreorder layout, ∀ c ∈ t.children, Names records c.value t.value)
    (names : Names records i p) (inner : ¬ IsRoot layout i) : IsBelow layout i p := by
  obtain ⟨c, member, rfl⟩ := List.mem_map.mp (all.mem_iff.mpr (List.mem_finRange i))
  rcases Rose.mem_or_child_of_mem_forestPreorder member with top | ⟨t, above, child⟩
  · exact absurd (List.mem_map_of_mem top) inner
  · exact ⟨t, above, names_unique (below t above c child) names, List.mem_map_of_mem child⟩

/-- A linked record is a root exactly if its parents never end and it stands before all records
above it; every other one is nested right below its parent.  So cycles are broken at their first
members and nowhere else exactly if no record that hangs below a cycle is listed before it. -/
theorem exists_layout_cut (records : List Record) :
    ∃ layout : List (Rose (Fin records.length)),
      assemble records = placeAll records layout ∧
        (positions layout).Perm (List.finRange records.length) ∧
        (∀ i p, Names records i p →
          (IsRoot layout i ↔ Endless records i ∧ ∀ a, Above records i a → i ≤ a) ∧
            (¬ IsRoot layout i → IsBelow layout i p)) ∧
        (CutsCyclesOnly layout ↔ CyclesComeFirst records) := by
  obtain ⟨layout, assembled, all, roots, below⟩ := exists_layout_of_roots records
  have cut : ∀ i p, Names records i p →
      (IsRoot layout i ↔ Endless records i ∧ ∀ a, Above records i a → i ≤ a) := by
    intro i p names
    have linked := exists_names_iff.mp ⟨p, names⟩
    have inside : i.val < (Links.ofRecords records).count := by
      rw [Links.count_ofRecords]
      exact i.isLt
    rw [roots, Links.mem_roots_iff (Links.closed_ofRecords records), ← breaks_iff]
    simp [inside, linked]
  have nested := fun i p (names : Names records i p) (inner : ¬ IsRoot layout i) =>
    isBelow_of_not_isRoot all below names inner
  refine ⟨layout, assembled, all, fun i p names => ⟨cut i p names, nested i p names⟩, ?_⟩
  constructor
  · intro only i endless loose
    obtain ⟨p, names⟩ := endless i .refl
    by_contra none
    push Not at none
    have root := (cut i p names).mpr ⟨endless, none⟩
    exact loose ((only i p names).1.mp root).1
  · intro first i p names
    refine ⟨?_, nested i p names⟩
    rw [cut i p names]
    constructor
    · rintro ⟨endless, least⟩
      refine ⟨?_, least⟩
      by_contra loose
      obtain ⟨a, above, before⟩ := first i endless loose
      have late := least a above
      omega
    · exact fun ⟨cycle, least⟩ => ⟨endless_of_onCycle cycle, least⟩

/-- A record below a cycle of two, listed before both. -/
def strayFirst (stray x y : NodeKey) : List Record :=
  [.node { id := stray, parent := some x } [], .node { id := x, parent := some y } [],
    .node { id := y, parent := some x } []]

/-- The record listed first is a root, although it lies on no cycle and its parent is there. -/
theorem not_cutsCyclesOnly_strayFirst :
    ∃ stray x y : NodeKey,
      ((strayFirst stray x y).map fun r => r.value.id).Nodup ∧
      assemble (strayFirst stray x y) = [.node { id := stray, parent := some x } [],
        .node { id := x, parent := some y } [.node { id := y, parent := some x } []]] ∧
      ∀ layout, assemble (strayFirst stray x y) = placeAll (strayFirst stray x y) layout →
        ¬ CutsCyclesOnly layout := by
  have keys : ∃ stray x y : NodeKey, [stray, x, y].Nodup ∧
      assemble (strayFirst stray x y) = [.node { id := stray, parent := some x } [],
        .node { id := x, parent := some y } [.node { id := y, parent := some x } []]] :=
    ⟨⟨"s", by decide⟩, ⟨"x", by decide⟩, ⟨"y", by decide⟩, by decide,
      (assemble_eq_nestAll _).trans rfl⟩
  obtain ⟨stray, x, y, distinct, assembled⟩ := keys
  refine ⟨stray, x, y, distinct, assembled, fun layout laid only => ?_⟩
  obtain ⟨first, second, -⟩ : stray ≠ x ∧ stray ≠ y ∧ x ≠ y := by simpa [and_assoc] using distinct
  let top : Fin (strayFirst stray x y).length := ⟨0, by simp [strayFirst]⟩
  let parent : Fin (strayFirst stray x y).length := ⟨1, by simp [strayFirst]⟩
  have names : Names (strayFirst stray x y) top parent := by
    refine ⟨rfl, fun k lower => ?_, by simp [top, parent]⟩
    obtain ⟨k, inside⟩ := k
    obtain rfl : k = 0 := by simpa [parent] using lower
    exact first
  have loose : ¬ OnCycle (strayFirst stray x y) top := by
    intro cycle
    obtain ⟨⟨b, inside⟩, _, last⟩ := TransGen.tail'_iff.mp cycle
    have named : (strayFirst stray x y)[b].value.parent = some stray := last.named
    match b, inside with
    | 0, _ => exact first (Option.some.inj named).symm
    | 1, _ => exact second (Option.some.inj named).symm
    | 2, _ => exact first (Option.some.inj named).symm
  have root : IsRoot layout top := by
    rw [assembled] at laid
    match layout with
    | [] => cases laid
    | .node i below :: rest =>
      have value : (strayFirst stray x y)[i].value.id = stray :=
        (congrArg (fun r : Record => r.value.id) (List.cons.inj laid).1).symm
      obtain ⟨i, inside⟩ := i
      match i, inside with
      | 0, _ => exact List.mem_cons_self
      | 1, _ => exact absurd value.symm first
      | 2, _ => exact absurd value.symm second
  exact loose ((only _ _ names).1.mp root).1

end CatalogueViewer.Assembly
