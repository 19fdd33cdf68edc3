import CatalogueViewer.Proofs.Tree.Limits
import CatalogueViewer.Proofs.Tree.Walking
import Mathlib.Data.List.Nodup

/-!
# Looking for pages

A walk meets the pages of a forest in pre-order.  In a forest whose keys are distinct, as the checks
of a catalogue leave it, a key leads to the one page that has it: `locate_eq_of_mem`.
-/

namespace CatalogueViewer

theorem firstDocument?_eq (forest : List PageTree) :
    firstDocument? forest =
      (Rose.forestPreorder forest).find? fun t => t.isLeaf && t.value.hasContent :=
  Walk.find?_ofForest _ _

theorem leaf_of_firstDocument? {forest : List PageTree} {t : PageTree}
    (first : firstDocument? forest = some t) :
    t ∈ Rose.forestPreorder forest ∧ t.isLeaf = true := by
  rw [firstDocument?_eq] at first
  have document : t.isLeaf = true ∧ t.value.hasContent = true := by
    simpa using List.find?_some first
  exact ⟨List.mem_of_find?_eq_some first, document.1⟩

/-- The keys of all pages of a forest. -/
def pageKeys (forest : List PageTree) : List NodeKey :=
  (Rose.forestPreorder forest).map fun t => t.value.key

variable {forest : List PageTree} {t u : PageTree} {key : NodeKey}

/-- The first page of the pre-order with a property. -/
def FirstWith (p : PageTree → Prop) (forest : List PageTree) (t : PageTree) : Prop :=
  ∃ before after, Rose.forestPreorder forest = before ++ t :: after ∧ p t ∧ ∀ u ∈ before, ¬ p u

/-- A document with a text. -/
def HoldsText (t : PageTree) : Prop :=
  t.children = [] ∧ ∃ text, t.value.content = some text ∧ text ≠ ""

theorem holdsText_iff : HoldsText t ↔ (t.isLeaf && t.value.hasContent) = true := by
  cases content : t.value.content <;>
    simp [HoldsText, Rose.isLeaf, Page.hasContent, Page.body, content]

theorem find?_eq_some_iff_firstWith {p : PageTree → Prop} {test : PageTree → Bool}
    (tests : ∀ t, p t ↔ test t = true) :
    (Rose.forestPreorder forest).find? test = some t ↔ FirstWith p forest t := by
  simp only [List.find?_eq_some_iff_append, FirstWith, tests]
  constructor
  · rintro ⟨here, before, after, split, none⟩
    exact ⟨before, after, split, here, by simpa using none⟩
  · rintro ⟨before, after, split, here, none⟩
    exact ⟨here, before, after, split, by simpa using none⟩

theorem firstDocument?_eq_some_iff :
    firstDocument? forest = some t ↔ FirstWith HoldsText forest t := by
  rw [firstDocument?_eq]
  exact find?_eq_some_iff_firstWith fun _ => holdsText_iff

theorem firstDocument?_eq_none_iff :
    firstDocument? forest = none ↔ ∀ t ∈ Rose.forestPreorder forest, ¬ HoldsText t := by
  simp only [firstDocument?_eq, List.find?_eq_none, holdsText_iff]

theorem findPage?_eq_some_iff :
    findPage? forest key = some t ↔ FirstWith (fun u => u.value.key = key) forest t := by
  rw [findPage?, Walk.find?_ofForest]
  exact find?_eq_some_iff_firstWith fun _ => decide_eq_true_iff.symm

theorem findPage?_eq_none_iff :
    findPage? forest key = none ↔ ∀ t ∈ Rose.forestPreorder forest, t.value.key ≠ key := by
  simp only [findPage?, Walk.find?_ofForest, List.find?_eq_none, decide_eq_true_iff, ne_eq]

theorem locate_eq_leaf_iff :
    locate forest key = some (.leaf t) ↔ findPage? forest key = some t ∧ t.children = [] := by
  rw [locate, Option.map_eq_some_iff]
  constructor
  · rintro ⟨u, found, kind⟩
    cases leaf : u.isLeaf with
    | true =>
      rw [leaf, if_pos rfl, Located.leaf.injEq] at kind
      subst kind
      exact ⟨found, List.isEmpty_iff.mp leaf⟩
    | false =>
      rw [leaf, if_neg Bool.false_ne_true] at kind
      cases kind
  · rintro ⟨found, none⟩
    exact ⟨t, found, if_pos (List.isEmpty_iff.mpr none)⟩

theorem locate_eq_parent_iff :
    locate forest key = some (.parent t) ↔ findPage? forest key = some t ∧ t.children ≠ [] := by
  rw [locate, Option.map_eq_some_iff]
  constructor
  · rintro ⟨u, found, kind⟩
    cases leaf : u.isLeaf with
    | true =>
      rw [leaf, if_pos rfl] at kind
      cases kind
    | false =>
      rw [leaf, if_neg Bool.false_ne_true, Located.parent.injEq] at kind
      subst kind
      exact ⟨found, by simpa [Rose.isLeaf] using leaf⟩
  · rintro ⟨found, some⟩
    exact ⟨t, found, if_neg (by simpa [Rose.isLeaf] using some)⟩

theorem locate_eq_none_iff : locate forest key = none ↔ findPage? forest key = none :=
  Option.map_eq_none_iff

theorem mem_of_findPage? (found : findPage? forest key = some t) :
    t ∈ Rose.forestPreorder forest ∧ t.value.key = key := by
  obtain ⟨before, after, split, same, -⟩ := findPage?_eq_some_iff.mp found
  exact ⟨by simp [split], same⟩

/-- A walk meets the tree at each place of a forest once, in ascending order of the places, and
ends.  Searches find the first document with a text and the first page with a key, and miss only
what is not there. -/
theorem searches_complete (forest : List PageTree) :
    (∃ places : List (List Nat), places.Pairwise (· < ·) ∧
        (∀ place, place ∈ places ↔ (Rose.subtree? place forest).isSome = true) ∧
        ∀ n, (Walk.ofForest forest).call? n =
          places[n]?.bind fun place => Rose.subtree? place forest) ∧
      (∀ n, (Walk.ofForest forest).call? n = none ↔ Rose.forestSize forest ≤ n) ∧
      (Walk.ofForest forest).toList = Rose.forestPreorder forest ∧
      (∀ t, firstDocument? forest = some t ↔ FirstWith HoldsText forest t) ∧
      (firstDocument? forest = none ↔ ∀ t ∈ Rose.forestPreorder forest, ¬ HoldsText t) ∧
      ∀ key,
        (∀ t, findPage? forest key = some t ↔ FirstWith (fun u => u.value.key = key) forest t) ∧
        (findPage? forest key = none ↔ ∀ t ∈ Rose.forestPreorder forest, t.value.key ≠ key) ∧
        (∀ t, locate forest key = some (.leaf t) ↔
          findPage? forest key = some t ∧ t.children = []) ∧
        (∀ t, locate forest key = some (.parent t) ↔
          findPage? forest key = some t ∧ t.children ≠ []) ∧
        (locate forest key = none ↔ findPage? forest key = none) := by
  refine ⟨⟨Rose.places 0 forest, ?_, fun _ => Rose.mem_places_iff, ?_⟩, ?_, ?_, ?_, ?_, ?_⟩
  · exact Rose.pairwise_places 0 forest
  · exact Walk.call?_ofForest forest
  · exact Walk.call?_ofForest_eq_none_iff forest
  · rw [Walk.toList_eq, Walk.awaited_ofForest]
  · exact fun _ => firstDocument?_eq_some_iff
  · exact firstDocument?_eq_none_iff
  · exact fun key => ⟨fun _ => findPage?_eq_some_iff, findPage?_eq_none_iff,
      fun _ => locate_eq_leaf_iff, fun _ => locate_eq_parent_iff, locate_eq_none_iff⟩

theorem eq_of_key (distinct : (pageKeys forest).Nodup) (one : t ∈ Rose.forestPreorder forest)
    (other : u ∈ Rose.forestPreorder forest) (same : t.value.key = u.value.key) : t = u :=
  List.inj_on_of_nodup_map distinct one other same

theorem locate_eq_none (unknown : key ∉ pageKeys forest) : locate forest key = none := by
  rw [locate_eq_none_iff, findPage?_eq_none_iff]
  exact fun t member same => unknown (List.mem_map.mpr ⟨t, member, same⟩)

theorem locate_eq_of_mem (distinct : (pageKeys forest).Nodup)
    (member : t ∈ Rose.forestPreorder forest) :
    locate forest t.value.key = some (if t.isLeaf then .leaf t else .parent t) := by
  have found : findPage? forest t.value.key = some t := by
    cases first : findPage? forest t.value.key with
    | none => exact absurd rfl (findPage?_eq_none_iff.mp first t member)
    | some u =>
      obtain ⟨page, same⟩ := mem_of_findPage? first
      rw [eq_of_key distinct page member same]
  rw [locate, found]
  rfl

theorem mem_of_locate {found : Located} (located : locate forest key = some found) :
    found.tree ∈ Rose.forestPreorder forest ∧ found.tree.value.key = key ∧
      found.tree.isLeaf = !found.isParent := by
  cases found with
  | leaf t =>
    obtain ⟨first, none⟩ := locate_eq_leaf_iff.mp located
    obtain ⟨member, same⟩ := mem_of_findPage? first
    exact ⟨member, same, List.isEmpty_iff.mpr none⟩
  | parent t =>
    obtain ⟨first, some⟩ := locate_eq_parent_iff.mp located
    obtain ⟨member, same⟩ := mem_of_findPage? first
    exact ⟨member, same, by simpa [Located.tree, Located.isParent, Rose.isLeaf] using some⟩

theorem values_forestMapLeveled_leveled {α β : Type} (f : Nat → α → β) (level : Nat)
    (forest : List (Rose α)) :
    (Rose.forestPreorder (Rose.forestMapLeveled f level forest)).map Rose.value =
      (Rose.forestLeveled level forest).map fun place => f place.1 place.2 := by
  match forest with
  | [] => rfl
  | .node a children :: rest =>
    have inside := values_forestMapLeveled_leveled f (level + 1) children
    have after := values_forestMapLeveled_leveled f level rest
    simp only [Rose.forestMapLeveled, Rose.mapLeveled, Rose.forestPreorder, Rose.preorder,
      Rose.forestLeveled, Rose.leveled, List.map_append, List.map_cons, inside, after, Rose.value]

/-- Pages have the ids of their records as keys. -/
theorem pageKeys_build (records : List Record) : pageKeys (build records) = forestIds records := by
  have values := congrArg (List.map Page.key)
    (values_forestMapLeveled_leveled Page.ofEntry 0 records)
  rw [List.map_map, List.map_map] at values
  rw [pageKeys, build_eq_map, ← ids_forestLeveled]
  exact values

/-- No key stands twice in a tree that has passed the checks. -/
theorem nodup_pageKeys_of_buildChecked {maxDepth : Nat} {records : List Record}
    {tree : List PageTree} (built : buildChecked maxDepth records = .ok tree) :
    (pageKeys tree).Nodup := by
  obtain ⟨_, distinct⟩ := (exists_buildChecked_ok_iff maxDepth records).mp ⟨tree, built⟩
  rwa [eq_build_of_buildChecked built, pageKeys_build]

end CatalogueViewer
