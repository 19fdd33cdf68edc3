import CatalogueViewer.Proofs.Tree.Building
import CatalogueViewer.Proofs.Tree.Preorder
import CatalogueViewer.Proofs.Tree.Rebuilding
import Mathlib.Data.List.Nodup

/-!
# Assembly undoes flattening

A forest of records is sent flat by listing each record alone, with the id of the record above it as
its parent.  Any listing that keeps the roots in order, and the children of each record, assembles
to the forest again: `assemble_of_lists`.
-/

namespace CatalogueViewer.Assembly

open Rose

mutual

/-- The record with `parent` as its parent; each record below it gets the one above as its own. -/
def link (parent : NodeKey) : Record → Record
  | .node e children => .node { e with parent := some parent } (linkAll e.id children)

def linkAll (parent : NodeKey) : List Record → List Record
  | [] => []
  | r :: rest => link parent r :: linkAll parent rest

end

/-- The forest with the parent set on each record below a root. -/
def linkBelow (forest : List Record) : List Record :=
  forest.map fun r => .node r.value (linkAll r.value.id r.children)

/-- The record without those below it. -/
def alone (r : Record) : Record := .node r.value []

/-- `listing` has each record of `forest` alone, in any order that keeps the roots in theirs and the
children of each record in theirs. -/
structure Lists (listing forest : List Record) : Prop where
  all : listing.Perm ((forestPreorder forest).map alone)
  roots : (forest.map alone).Sublist listing
  siblings : ∀ t ∈ forestPreorder forest, (t.children.map alone).Sublist listing

/-! ### Linked forests -/

/-- Parents are set as in a flat payload. -/
structure Linked (forest : List Record) : Prop where
  free : ∀ t ∈ forest, t.value.parent = none
  named : ∀ t ∈ forestPreorder forest, ∀ c ∈ t.children, c.value.parent = some t.value.id

theorem children_link (parent : NodeKey) (r : Record) :
    (link parent r).children = linkAll r.value.id r.children := by
  cases r; rfl

theorem id_link (parent : NodeKey) (r : Record) : (link parent r).value.id = r.value.id := by
  cases r; rfl

theorem parent_link (parent : NodeKey) (r : Record) :
    (link parent r).value.parent = some parent := by
  cases r; rfl

theorem linkAll_eq_map (parent : NodeKey) (forest : List Record) :
    linkAll parent forest = forest.map (link parent) := by
  induction forest with
  | nil => rfl
  | cons r rest ih => rw [linkAll, ih, List.map_cons]

theorem linked_linkBelow {forest : List Record} (free : ∀ t ∈ forest, t.value.parent = none) :
    Linked (linkBelow forest) := by
  have below : ∀ t ∈ forestPreorder (linkBelow forest),
      ∃ children, t.children = linkAll t.value.id children := by
    apply forestPreorder_induction
    · intro t member
      obtain ⟨r, _, rfl⟩ := List.mem_map.mp member
      exact ⟨r.children, rfl⟩
    · rintro t - ⟨children, same⟩ c child
      rw [same, linkAll_eq_map] at child
      obtain ⟨r, _, rfl⟩ := List.mem_map.mp child
      exact ⟨r.children, by rw [children_link, id_link]⟩
  constructor
  · intro t member
    obtain ⟨r, inside, rfl⟩ := List.mem_map.mp member
    exact free r inside
  · intro t member c child
    obtain ⟨children, same⟩ := below t member
    rw [same, linkAll_eq_map] at child
    obtain ⟨r, _, rfl⟩ := List.mem_map.mp child
    exact parent_link _ r

/-- Maps that do not look at the parent do not tell a linked forest from the forest. -/
theorem forestMapLeveled_linkAll {β : Type} {f : Nat → Entry → β}
    (blind : ∀ level e p, f level { e with parent := p } = f level e) (level : Nat)
    (parent : NodeKey) (forest : List Record) :
    forestMapLeveled f level (linkAll parent forest) = forestMapLeveled f level forest := by
  match forest with
  | [] => rfl
  | .node e children :: rest =>
    have inside := forestMapLeveled_linkAll blind (level + 1) e.id children
    have after := forestMapLeveled_linkAll blind level parent rest
    simp only [linkAll, link, forestMapLeveled, mapLeveled, blind, inside, after]

theorem forestMapLeveled_linkBelow {β : Type} {f : Nat → Entry → β}
    (blind : ∀ level e p, f level { e with parent := p } = f level e) (level : Nat)
    (forest : List Record) :
    forestMapLeveled f level (linkBelow forest) = forestMapLeveled f level forest := by
  induction forest with
  | nil => rfl
  | cons r rest ih =>
    obtain ⟨e, children⟩ := r
    have inside := forestMapLeveled_linkAll blind (level + 1) e.id children
    have split : linkBelow (.node e children :: rest) =
        .node e (linkAll e.id children) :: linkBelow rest := rfl
    rw [split, forestMapLeveled, mapLeveled, inside, ih]
    rfl

/-- The values in pre-order are those of the image, mapped. -/
theorem values_forestMapLeveled {α β : Type} (f : α → β) (level : Nat) (forest : List (Rose α)) :
    (forestPreorder (forestMapLeveled (fun _ => f) level forest)).map value =
      (forestPreorder forest).map fun t => f t.value := by
  match forest with
  | [] => rfl
  | .node a children :: rest =>
    have inside := values_forestMapLeveled f (level + 1) children
    have after := values_forestMapLeveled f level rest
    simp only [forestMapLeveled, mapLeveled, forestPreorder, preorder, List.cons_append,
      List.map_cons, List.map_append, value, inside, after]

theorem ids_linkBelow (forest : List Record) :
    ((forestPreorder (linkBelow forest)).map fun t => t.value.id) =
      (forestPreorder forest).map fun t => t.value.id := by
  have same := forestMapLeveled_linkBelow (f := fun _ e => e.id) (fun _ _ _ => rfl) 0 forest
  rw [← values_forestMapLeveled Entry.id 0, ← values_forestMapLeveled Entry.id 0]
  exact congrArg (fun ids => (forestPreorder ids).map value) same

theorem forestHeight_linkAll (parent : NodeKey) (forest : List Record) :
    forestHeight (linkAll parent forest) = forestHeight forest := by
  match forest with
  | [] => rfl
  | .node e children :: rest =>
    have inside := forestHeight_linkAll e.id children
    have after := forestHeight_linkAll parent rest
    simp only [linkAll, link, forestHeight, height, inside, after]

theorem forestHeight_linkBelow (forest : List Record) :
    forestHeight (linkBelow forest) = forestHeight forest := by
  induction forest with
  | nil => rfl
  | cons r rest ih =>
    have split : linkBelow (r :: rest) =
        .node r.value (linkAll r.value.id r.children) :: linkBelow rest := rfl
    rw [split, forestHeight, forestHeight, height, forestHeight_linkAll, ih, height_eq r]

/-! ### The listing in pre-order -/

/-- The records of a forest one by one, each with its parent. -/
def flatten (forest : List Record) : List Record := (forestPreorder (linkBelow forest)).map alone

theorem lists_flatten (forest : List Record) : Lists (flatten forest) (linkBelow forest) where
  all := .refl _
  roots := (sublist_forestPreorder _).map alone
  siblings t member :=
    ((sublist_forestPreorder t.children).trans
      (forestPreorder_children_sublist _ t member)).map alone

theorem forestHeight_flatten_le (forest : List Record) : forestHeight (flatten forest) ≤ 1 := by
  apply forestHeight_le_of_forall
  intro r member
  obtain ⟨t, -, rfl⟩ := List.mem_map.mp member
  exact Nat.le_refl 1

/-! ### Positions of a listing -/

theorem filter_eq_of_sublist {α : Type} {xs all : List α} {p : α → Bool} (distinct : all.Nodup)
    (sub : xs.Sublist all) (exactly : ∀ x ∈ all, p x = true ↔ x ∈ xs) : all.filter p = xs := by
  have kept : xs.filter p = xs :=
    List.filter_eq_self.mpr fun x member => (exactly x (sub.subset member)).mpr member
  have part : xs.Sublist (all.filter p) := kept ▸ sub.filter p
  have within : all.filter p ⊆ xs := by
    intro x member
    obtain ⟨inside, holds⟩ := List.mem_filter.mp member
    exact (exactly x inside).mp holds
  have length := (distinct.filter p).length_le_of_subset within
  exact (part.eq_of_length_le length).symm

theorem map_filter_range {α : Type} (all : List α) (p : α → Bool) :
    ((List.range all.length).filter fun i => all[i]?.any p).map (fun i => all[i]?) =
      (all.filter p).map some := by
  induction all with
  | nil => rfl
  | cons x rest ih =>
    rw [List.length_cons, List.range_succ_eq_map, List.filter_cons, List.filter_map,
      List.filter_cons]
    have later : ((List.range rest.length).filter
        ((fun i => (x :: rest)[i]?.any p) ∘ Nat.succ)).map (fun i => rest[i]?) =
          (rest.filter p).map some := ih
    cases holds : p x <;> simp [holds, ← later, Function.comp_def]

/-- The positions of some distinct records, in order, are those where one of them is found. -/
theorem map_filter_range_eq {α : Type} {xs all : List α} {q : Nat → Bool} (distinct : all.Nodup)
    (sub : xs.Sublist all)
    (exactly : ∀ i < all.length, q i = true ↔ ∃ x ∈ xs, all[i]? = some x) :
    ((List.range all.length).filter q).map (fun i => all[i]?) = xs.map some := by
  classical
  have chosen : all.filter (fun x => decide (x ∈ xs)) = xs :=
    filter_eq_of_sublist distinct sub fun x _ => decide_eq_true_iff
  have same : (List.range all.length).filter q =
      (List.range all.length).filter fun i => all[i]?.any fun x => decide (x ∈ xs) := by
    apply List.filter_congr
    intro i member
    have inside := List.mem_range.mp member
    rw [Bool.eq_iff_iff, exactly i inside, List.getElem?_eq_getElem inside]
    simp
  rw [same, map_filter_range, chosen]

/-- A flat payload that lists a forest with distinct ids. -/
structure Flat (listing forest : List Record) : Prop extends
    Lists listing forest, Linked forest where
  distinct : ((forestPreorder forest).map fun t => t.value.id).Nodup

namespace Flat

variable {listing forest : List Record}

theorem eq_of_id (flat : Flat listing forest) {t u : Record} (one : t ∈ forestPreorder forest)
    (other : u ∈ forestPreorder forest) (same : t.value.id = u.value.id) : t = u :=
  List.inj_on_of_nodup_map flat.distinct one other same

theorem nodup_ids (flat : Flat listing forest) :
    (listing.map fun r => r.value.id).Nodup := by
  rw [(flat.all.map _).nodup_iff, List.map_map]
  exact flat.distinct

theorem nodup (flat : Flat listing forest) : listing.Nodup := flat.nodup_ids.of_map

theorem position_eq (flat : Flat listing forest) {i j : Nat} {r s : Record}
    (one : listing[i]? = some r) (other : listing[j]? = some s) (same : r.value.id = s.value.id) :
    i = j := by
  have inside : i < (listing.map fun r => r.value.id).length := by
    rw [List.length_map]
    exact (List.getElem?_eq_some_iff.mp one).1
  rw [← List.getElem?_inj inside flat.nodup_ids]
  rw [List.getElem?_map, List.getElem?_map, one, other]
  exact congrArg some same

theorem exists_position (flat : Flat listing forest) {t : Record}
    (member : t ∈ forestPreorder forest) : ∃ i : Nat, listing[i]? = some (alone t) :=
  List.mem_iff_getElem?.mp (flat.all.mem_iff.mpr (List.mem_map_of_mem member))

theorem exists_tree (flat : Flat listing forest) {i : Nat} (inside : i < listing.length) :
    ∃ t ∈ forestPreorder forest, listing[i]? = some (alone t) := by
  obtain ⟨t, member, same⟩ := List.mem_map.mp (flat.all.mem_iff.mp (List.getElem_mem inside))
  exact ⟨t, member, by rw [List.getElem?_eq_getElem inside, same]⟩

theorem alone_inj (flat : Flat listing forest) {t u : Record} (one : t ∈ forestPreorder forest)
    (other : u ∈ forestPreorder forest) (same : alone t = alone u) : t = u := by
  have values : (alone t).value = (alone u).value := congrArg value same
  exact flat.eq_of_id one other (congrArg Entry.id values)

theorem position?_eq (flat : Flat listing forest) {i : Nat} {t : Record}
    (found : listing[i]? = some (alone t)) :
    Links.position? listing t.value.id = some i := by
  rw [Links.position?_eq_some_iff]
  refine ⟨alone t, found, rfl, ?_⟩
  intro k before s here same
  have again := flat.position_eq here found same
  omega

/-- A record is linked to the one above it and to no other. -/
theorem parent?_eq_some_iff (flat : Flat listing forest) {i j : Nat} {t : Record}
    (member : t ∈ forestPreorder forest) (found : listing[i]? = some (alone t)) :
    (Links.ofRecords listing).parent? j = some i ↔
      ∃ c ∈ t.children, listing[j]? = some (alone c) := by
  rw [Links.parent?_ofRecords_eq_some_iff]
  constructor
  · rintro ⟨r, id, here, parent, position, -⟩
    obtain ⟨c, inside, same⟩ := flat.exists_tree (List.getElem?_eq_some_iff.mp here).1
    obtain rfl := Option.some.inj (same.symm.trans here)
    have named : c.value.parent = some id := parent
    rcases mem_or_child_of_mem_forestPreorder inside with root | ⟨u, above, child⟩
    · rw [flat.free c root] at named
      cases named
    · have upper := flat.named u above c child
      have ids : u.value.id = id := Option.some.inj (upper.symm.trans named)
      obtain ⟨s, there, sid, _⟩ := Links.position?_eq_some_iff.mp position
      obtain rfl := Option.some.inj (found.symm.trans there)
      have equal : u = t := flat.eq_of_id above member (ids.trans sid.symm)
      exact ⟨c, equal ▸ child, same⟩
  · rintro ⟨c, child, here⟩
    refine ⟨alone c, t.value.id, here, flat.named t member c child, flat.position?_eq found, ?_⟩
    intro same
    rw [same, here] at found
    have inside := mem_forestPreorder_of_child member child
    have equal := flat.alone_inj inside member (Option.some.inj found)
    have lower := height_lt_of_child child
    rw [equal] at lower
    omega

theorem parent?_eq_none_iff (flat : Flat listing forest) {j : Nat} (inside : j < listing.length) :
    (Links.ofRecords listing).parent? j = none ↔ ∃ t ∈ forest, listing[j]? = some (alone t) := by
  constructor
  · intro free
    obtain ⟨t, member, found⟩ := flat.exists_tree inside
    rcases mem_or_child_of_mem_forestPreorder member with root | ⟨u, above, child⟩
    · exact ⟨t, root, found⟩
    · obtain ⟨i, upper⟩ := flat.exists_position above
      have linked := (flat.parent?_eq_some_iff above upper).mpr ⟨t, child, found⟩
      rw [free] at linked
      cases linked
  · rintro ⟨t, root, found⟩
    rw [Option.eq_none_iff_forall_ne_some]
    intro i linked
    obtain ⟨r, id, here, parent, _⟩ := Links.parent?_ofRecords_eq_some_iff.mp linked
    obtain rfl := Option.some.inj (found.symm.trans here)
    have free : (alone t).value.parent = none := flat.free t root
    rw [free] at parent
    cases parent

/-- Each record climbs to a root of the forest. -/
theorem exists_climbs (flat : Flat listing forest) : ∀ t ∈ forestPreorder forest,
    ∀ i, listing[i]? = some (alone t) → ∃ k,
      Links.Climbs (Links.ofRecords listing) (Links.ofRecords listing).unlinked i k := by
  apply forestPreorder_induction
  · intro t root i found
    have inside := (List.getElem?_eq_some_iff.mp found).1
    have free := (flat.parent?_eq_none_iff inside).mpr ⟨t, root, found⟩
    rw [← Links.count_ofRecords] at inside
    exact ⟨0, .root (Links.mem_unlinked_iff.mpr ⟨inside, free⟩)⟩
  · intro t member ih c child j found
    obtain ⟨i, upper⟩ := flat.exists_position member
    obtain ⟨k, climbs⟩ := ih i upper
    have linked := (flat.parent?_eq_some_iff member upper).mpr ⟨c, child, found⟩
    have below : j ∉ (Links.ofRecords listing).unlinked := by
      intro free
      rw [(Links.mem_unlinked_iff.mp free).2] at linked
      cases linked
    exact ⟨k + 1, .link below linked climbs⟩

theorem roots_eq (flat : Flat listing forest) :
    (Links.ofRecords listing).roots = (Links.ofRecords listing).unlinked := by
  apply Links.roots_eq_unlinked
  intro i inside
  rw [Links.count_ofRecords] at inside
  obtain ⟨t, member, found⟩ := flat.exists_tree inside
  exact flat.exists_climbs t member i found

/-- What stands for each of `trees`, taken from the positions of their records. -/
theorem flatMap_eq_of_positions {f : Nat → List Record} {places : List Nat} {trees : List Record}
    (read : places.map (fun i => listing[i]?) = (trees.map alone).map some)
    (each : ∀ t ∈ trees, ∀ i : Nat, listing[i]? = some (alone t) → f i = [t]) :
    places.flatMap f = trees := by
  induction trees generalizing places with
  | nil =>
    rw [List.map_eq_nil_iff.mp read]
    rfl
  | cons t rest ih =>
    obtain ⟨i, later, rfl, found, read⟩ := List.map_eq_cons_iff.mp read
    have onward := ih read fun u member => each u (List.mem_cons_of_mem _ member)
    rw [List.flatMap_cons, each t List.mem_cons_self i found, onward]
    rfl

theorem unlinked_positions (flat : Flat listing forest) :
    (Links.ofRecords listing).unlinked.map (fun i => listing[i]?) =
      (forest.map alone).map some := by
  unfold Links.unlinked
  rw [Links.count_ofRecords]
  apply map_filter_range_eq flat.nodup flat.roots
  intro i inside
  rw [Option.isNone_iff_eq_none, flat.parent?_eq_none_iff inside]
  simp

theorem attached_positions (flat : Flat listing forest) {i : Nat} {t : Record}
    (member : t ∈ forestPreorder forest) (found : listing[i]? = some (alone t)) :
    ((Links.ofRecords listing).attached (Links.ofRecords listing).roots i).map
        (fun j => listing[j]?) = (t.children.map alone).map some := by
  unfold Links.attached
  rw [Links.count_ofRecords]
  apply map_filter_range_eq flat.nodup (flat.siblings t member)
  intro j _
  have linked := flat.parent?_eq_some_iff (j := j) member found
  have below : (Links.ofRecords listing).parent? j = some i →
      j ∉ (Links.ofRecords listing).roots := by
    intro upper root
    rw [flat.roots_eq] at root
    rw [(Links.mem_unlinked_iff.mp root).2] at upper
    cases upper
  simp only [Bool.and_eq_true, beq_iff_eq, Bool.not_eq_true', List.contains_eq_mem,
    decide_eq_false_iff_not, List.mem_map, exists_exists_and_eq_and]
  rw [← linked]
  exact ⟨And.left, fun upper => ⟨upper, below upper⟩⟩

/-- Nesting at the position of a record restores the tree below it. -/
theorem nest_eq (flat : Flat listing forest) (depth : Nat) : ∀ t ∈ forestPreorder forest,
    t.height ≤ depth → ∀ i : Nat, listing[i]? = some (alone t) →
      nest listing.toArray (Links.ofRecords listing) (Links.ofRecords listing).roots depth i =
        [t] := by
  -- The depth bounds the height of the tree, so what stands below fits into one level less.
  induction depth with
  | zero =>
    intro t _ low
    rw [height_eq] at low
    omega
  | succ depth ih =>
    intro t member low i found
    have below : ((Links.ofRecords listing).attached (Links.ofRecords listing).roots i).flatMap
        (nest listing.toArray (Links.ofRecords listing) (Links.ofRecords listing).roots depth) =
          t.children := by
      apply flatMap_eq_of_positions (flat.attached_positions member found)
      intro c child
      have lower := height_lt_of_child child
      exact ih c (mem_forestPreorder_of_child member child) (by omega)
    have here : listing.toArray[i]? = some (alone t) := by rw [List.getElem?_toArray, found]
    unfold nest
    rw [here]
    dsimp only
    rw [below]
    cases t
    rfl

theorem assemble_eq (flat : Flat listing forest) : assemble listing = forest := by
  have length : (Links.ofRecords listing).count = forestSize forest := by
    rw [Links.count_ofRecords, flat.all.length_eq, List.length_map, length_forestPreorder]
  rw [assemble_eq_nestAll]
  unfold nestAll
  dsimp only
  rw [length]
  apply flatMap_eq_of_positions (flat.roots_eq ▸ flat.unlinked_positions)
  intro t root
  have low := height_le_forestHeight root
  have deep := forestHeight_le_forestSize forest
  exact flat.nest_eq _ t (mem_forestPreorder_of_mem root) (by omega)

end Flat

/-- Assembling a listing gives the forest with its parents set, and so the same pages. -/
theorem assemble_of_lists {forest listing : List Record}
    (distinct : ((forestPreorder forest).map fun t => t.value.id).Nodup)
    (free : ∀ t ∈ forest, t.value.parent = none)
    (lists : Lists listing (linkBelow forest)) :
    assemble listing = linkBelow forest ∧ build (assemble listing) = build forest := by
  have flat : Flat listing (linkBelow forest) :=
    { toLists := lists
      toLinked := linked_linkBelow free
      distinct := by rw [ids_linkBelow]; exact distinct }
  have assembled := flat.assemble_eq
  refine ⟨assembled, ?_⟩
  rw [assembled, build_eq_map, build_eq_map]
  exact forestMapLeveled_linkBelow (fun _ _ _ => rfl) 0 forest

/-- Two levels listed from below, and a root between the children of another. -/
theorem assemble_of_lists_interleaved :
    ∃ (a b c d e : NodeKey) (forest listing : List Record),
      forest = [.node { id := a } [.node { id := b } [.node { id := c } []], .node { id := d } []],
        .node { id := e } []] ∧
      listing = [.node { id := c, parent := some b } [], .node { id := b, parent := some a } [],
        .node { id := a } [], .node { id := e } [], .node { id := d, parent := some a } []] ∧
      ((forestPreorder forest).map fun t => t.value.id).Nodup ∧
      (∀ t ∈ forest, t.value.parent = none) ∧ Lists listing (linkBelow forest) ∧
      assemble listing = linkBelow forest ∧ build (assemble listing) = build forest := by
  have keys : ∃ a b c d e : NodeKey, [a, b, c, d, e].Nodup :=
    ⟨⟨"a", by decide⟩, ⟨"b", by decide⟩, ⟨"c", by decide⟩, ⟨"d", by decide⟩, ⟨"e", by decide⟩,
      by decide⟩
  obtain ⟨a, b, c, d, e, distinct⟩ := keys
  have free : ∀ t ∈ ([.node { id := a } [.node { id := b } [.node { id := c } []],
      .node { id := d } []], .node { id := e } []] : List Record), t.value.parent = none := by
    intro t member
    rcases List.mem_cons.mp member with rfl | member
    · rfl
    · rw [List.mem_singleton.mp member]
      rfl
  have lists : Lists
      [.node { id := c, parent := some b } [], .node { id := b, parent := some a } [],
        .node { id := a } [], .node { id := e } [], .node { id := d, parent := some a } []]
      (linkBelow [.node { id := a } [.node { id := b } [.node { id := c } []],
        .node { id := d } []], .node { id := e } []]) := by
    refine ⟨?_, ?_, ?_⟩
    · exact (List.reverse_perm [_, _, _]).append (.swap _ _ [])
    · exact .cons _ (.cons _ (.cons_cons _ (.cons_cons _ (.cons _ .slnil))))
    · intro t member
      simp only [linkBelow, linkAll, link, forestPreorder, preorder, List.map_cons, List.map_nil,
        value, Rose.children, List.cons_append, List.nil_append, List.append_nil,
        List.mem_cons, List.not_mem_nil, or_false] at member
      rcases member with rfl | rfl | rfl | rfl | rfl
      · exact .cons _ (.cons_cons _ (.cons _ (.cons _ (.cons_cons _ .slnil))))
      · exact .cons_cons _ (List.nil_sublist _)
      all_goals exact List.nil_sublist _
  exact ⟨a, b, c, d, e, _, _, rfl, rfl, distinct, free, lists,
    assemble_of_lists distinct free lists⟩

end CatalogueViewer.Assembly
