import CatalogueViewer.Proofs.Tree.Building
import CatalogueViewer.Proofs.Tree.Preorder
import CatalogueViewer.Proofs.Tree.Rebuilding
import CatalogueViewer.Viewport

/-!
# The limits of a catalogue

Two checks guard the depth of a catalogue: one counts parent links before anything is nested, the
other counts levels of the nested records and also looks for ids that stand twice.  Together they
accept exactly the payloads whose forest keeps to the limits, and what they blame is there:
`opening_keeps_limits`.
-/

namespace CatalogueViewer

namespace Rose

variable {α : Type}

theorem leveled_eq (level : Nat) (t : Rose α) :
    t.leveled level = (level, t.value) :: forestLeveled (level + 1) t.children := by
  cases t; rfl

theorem forestLeveled_append (level : Nat) (xs ys : List (Rose α)) :
    forestLeveled level (xs ++ ys) = forestLeveled level xs ++ forestLeveled level ys := by
  induction xs with
  | nil => rfl
  | cons t rest ih => rw [List.cons_append, forestLeveled, forestLeveled, ih, List.append_assoc]

theorem mem_forestLeveled_flatMap {β : Type} {level : Nat} {place : Nat × α} {is : List β}
    {f : β → List (Rose α)} :
    place ∈ forestLeveled level (is.flatMap f) ↔ ∃ i ∈ is, place ∈ forestLeveled level (f i) := by
  induction is with
  | nil => simp [forestLeveled]
  | cons i rest ih =>
    rw [List.flatMap_cons, forestLeveled_append, List.mem_append, ih]
    simp

theorem values_forestLeveled (level : Nat) (forest : List (Rose α)) :
    (forestLeveled level forest).map Prod.snd = (forestPreorder forest).map value := by
  rw [← values_forestPlaced, ← snd_forestPlaced level, List.map_map, List.map_map]
  rfl

theorem lt_of_mem_forestLeveled {level : Nat} {forest : List (Rose α)} {place : Nat × α}
    (member : place ∈ forestLeveled level forest) : place.1 < level + forestHeight forest := by
  match forest with
  | [] => cases member
  | .node a children :: rest =>
    rw [forestHeight, height]
    rcases List.mem_append.mp member with first | later
    · rcases List.mem_cons.mp first with same | below
      · rw [same]
        dsimp only
        omega
      · have bound := lt_of_mem_forestLeveled below
        omega
    · have bound := lt_of_mem_forestLeveled later
      omega

/-- Some tree stands on the lowest level. -/
theorem exists_lowest (level : Nat) (forest : List (Rose α)) (some : 0 < forestHeight forest) :
    ∃ place ∈ forestLeveled level forest, place.1 + 1 = level + forestHeight forest := by
  match forest with
  | [] => cases some
  | .node a children :: rest =>
    rw [forestHeight, height]
    by_cases taller : forestHeight children + 1 < forestHeight rest
    · obtain ⟨place, member, low⟩ := exists_lowest level rest (by omega)
      exact ⟨place, List.mem_append_right _ member, by omega⟩
    · by_cases flat : forestHeight children = 0
      · refine ⟨(level, a), List.mem_append_left _ List.mem_cons_self, ?_⟩
        dsimp only
        omega
      · obtain ⟨place, member, low⟩ :=
          exists_lowest (level + 1) children (by omega)
        exact ⟨place, List.mem_append_left _ (List.mem_cons_of_mem _ member), by omega⟩

theorem forestHeight_le_iff {forest : List (Rose α)} {depth : Nat} :
    forestHeight forest ≤ depth ↔ ∀ place ∈ forestLeveled 0 forest, place.1 < depth := by
  constructor
  · intro low place member
    have bound := lt_of_mem_forestLeveled member
    omega
  · intro all
    by_cases empty : forestHeight forest = 0
    · omega
    · obtain ⟨place, member, low⟩ := exists_lowest 0 forest (Nat.pos_of_ne_zero empty)
      have bound := all place member
      omega

end Rose

/-- The ids of all records of a forest. -/
def forestIds (forest : List Record) : List NodeKey :=
  (Rose.forestPreorder forest).map fun t => t.value.id

/-- What an error says about a forest is so. -/
def TreeError.Holds (maxDepth : Nat) (forest : List Record) : TreeError → Prop
  | depthExceeded key depth limit => limit = maxDepth ∧ maxDepth < depth ∧
      ∃ level e, (level, e) ∈ Rose.forestLeveled 0 forest ∧ depth = level + 1 ∧ e.id = key
  | duplicateKey key => 2 ≤ (forestIds forest).count key

namespace Builder

/-! ### The check of the nested records -/

variable {maxDepth : Nat} {seen : List NodeKey} {places : List (Nat × Record)}

/-- The visitor lets everything pass that is within the limits. -/
theorem exists_visitAll_ok_iff (maxDepth : Nat) (seen : List NodeKey)
    (places : List (Nat × Record)) :
    (∃ s, visitAll (checkRecord maxDepth) seen places = .ok s) ↔
      (∀ place ∈ places, place.1 < maxDepth) ∧
        (places.map fun place => place.2.value.id).Nodup ∧
          ∀ place ∈ places, place.2.value.id ∉ seen := by
  induction places generalizing seen with
  | nil => simp [visitAll, pure, Except.pure]
  | cons place rest ih =>
    rw [visitAll_cons, checkRecord]
    by_cases deep : maxDepth ≤ place.1
    · have refused : ¬ place.1 < maxDepth := Nat.not_lt.mpr deep
      simp [deep, refused, bind, Except.bind]
    · by_cases twice : place.2.value.id ∈ seen
      · simp [deep, twice, bind, Except.bind]
      · have low : place.1 < maxDepth := Nat.not_le.mp deep
        rw [List.forall_mem_cons, List.forall_mem_cons, List.map_cons, List.nodup_cons]
        simp only [deep, twice, if_false, bind, Except.bind, ih, low, true_and, List.mem_cons,
          not_or, List.mem_map, not_exists, not_and, not_false_eq_true]
        constructor
        · rintro ⟨levels, distinct, fresh⟩
          exact ⟨levels, ⟨fun p member => (fresh p member).1, distinct⟩,
            fun p member => (fresh p member).2⟩
        · rintro ⟨levels, ⟨apart, distinct⟩, fresh⟩
          exact ⟨levels, distinct, fun p member => ⟨apart p member, fresh p member⟩⟩

/-- The visitor remembers the ids of all that it let pass. -/
theorem eq_of_visitAll_ok {last : List NodeKey}
    (passed : visitAll (checkRecord maxDepth) seen places = .ok last) :
    last = (places.map fun place => place.2.value.id).reverse ++ seen := by
  induction places generalizing seen with
  | nil =>
    cases passed
    rfl
  | cons place rest ih =>
    rw [visitAll_cons, checkRecord] at passed
    by_cases deep : maxDepth ≤ place.1
    · simp [deep, bind, Except.bind] at passed
    · by_cases twice : place.2.value.id ∈ seen
      · simp [deep, twice, bind, Except.bind] at passed
      · simp only [deep, twice, if_false, bind, Except.bind] at passed
        rw [ih passed, List.map_cons, List.reverse_cons, List.append_assoc, List.singleton_append]

/-- The limits of a catalogue, for the records at some places. -/
structure WithinLimits (maxDepth : Nat) (places : List (Nat × Record)) : Prop where
  low : ∀ place ∈ places, place.1 < maxDepth
  distinct : (places.map fun place => place.2.value.id).Nodup

/-- The limit that a place breaks after those before it.  The depth is tested first. -/
inductive Offends (maxDepth : Nat) (before : List (Nat × Record)) (place : Nat × Record) :
    TreeError → Prop
  | depth (deep : maxDepth ≤ place.1) :
    Offends maxDepth before place (.depthExceeded place.2.value.id (place.1 + 1) maxDepth)
  | twice (low : place.1 < maxDepth)
      (again : place.2.value.id ∈ before.map fun earlier => earlier.2.value.id) :
    Offends maxDepth before place (.duplicateKey place.2.value.id)

theorem exists_visitAll_ok_iff_withinLimits :
    (∃ s, visitAll (checkRecord maxDepth) [] places = .ok s) ↔ WithinLimits maxDepth places := by
  rw [exists_visitAll_ok_iff]
  constructor
  · rintro ⟨low, distinct, -⟩
    exact ⟨low, distinct⟩
  · rintro ⟨low, distinct⟩
    exact ⟨low, distinct, fun _ _ => List.not_mem_nil⟩

theorem checkRecord_eq_error_iff {before : List (Nat × Record)} {place : Nat × Record}
    {failure : TreeError}
    (remembered : ∀ key, key ∈ seen ↔ key ∈ before.map fun earlier => earlier.2.value.id) :
    checkRecord maxDepth seen place.1 place.2 = .error failure ↔
      Offends maxDepth before place failure := by
  rw [checkRecord]
  constructor
  · intro failed
    by_cases deep : maxDepth ≤ place.1
    · rw [if_pos deep] at failed
      obtain rfl := Except.error.inj failed
      exact .depth deep
    · by_cases twice : place.2.value.id ∈ seen
      · rw [if_neg deep, if_pos twice] at failed
        obtain rfl := Except.error.inj failed
        exact .twice (Nat.not_le.mp deep) ((remembered _).mp twice)
      · rw [if_neg deep, if_neg twice] at failed
        cases failed
  · intro offends
    cases offends with
    | depth deep => rw [if_pos deep]
    | twice low again => rw [if_neg (Nat.not_le.mpr low), if_pos ((remembered _).mpr again)]

/-- The check blames the first place that breaks a limit. -/
theorem visitAll_checkRecord_eq_error_iff {failure : TreeError} :
    visitAll (checkRecord maxDepth) [] places = .error failure ↔
      ∃ before place after, places = before ++ place :: after ∧ WithinLimits maxDepth before ∧
        Offends maxDepth before place failure := by
  rw [visitAll_eq_error_iff]
  have remembers {before : List (Nat × Record)} {s : List NodeKey}
      (passed : visitAll (checkRecord maxDepth) [] before = .ok s) (key : NodeKey) :
      key ∈ s ↔ key ∈ before.map fun earlier => earlier.2.value.id := by
    rw [eq_of_visitAll_ok passed, List.append_nil, List.mem_reverse]
  constructor
  · rintro ⟨before, place, after, s, split, passed, stopped⟩
    exact ⟨before, place, after, split, exists_visitAll_ok_iff_withinLimits.mp ⟨s, passed⟩,
      (checkRecord_eq_error_iff (remembers passed)).mp stopped⟩
  · rintro ⟨before, place, after, split, within, offends⟩
    obtain ⟨s, passed⟩ := exists_visitAll_ok_iff_withinLimits.mpr within
    exact ⟨before, place, after, s, split, passed,
      (checkRecord_eq_error_iff (remembers passed)).mpr offends⟩

end Builder

theorem ids_forestLeveled (forest : List Record) :
    (Rose.forestLeveled 0 forest).map (fun place => place.2.id) = forestIds forest := by
  have values := congrArg (List.map Entry.id) (Rose.values_forestLeveled 0 forest)
  rwa [List.map_map, List.map_map] at values

theorem ids_forestPlaced (forest : List Record) :
    (Rose.forestPlaced 0 forest).map (fun place => place.2.value.id) = forestIds forest := by
  rw [← ids_forestLeveled, ← Rose.values_forestPlaced, List.map_map]
  rfl

theorem forestHeight_le_iff_forestPlaced {forest : List Record} {depth : Nat} :
    Rose.forestHeight forest ≤ depth ↔ ∀ place ∈ Rose.forestPlaced 0 forest, place.1 < depth := by
  rw [Rose.forestHeight_le_iff, ← Rose.values_forestPlaced, List.forall_mem_map]

theorem withinLimits_iff {maxDepth : Nat} {forest : List Record} :
    Builder.WithinLimits maxDepth (Rose.forestPlaced 0 forest) ↔
      Rose.forestHeight forest ≤ maxDepth ∧ (forestIds forest).Nodup := by
  rw [forestHeight_le_iff_forestPlaced, ← ids_forestPlaced]
  exact ⟨fun ⟨low, distinct⟩ => ⟨low, distinct⟩, fun ⟨low, distinct⟩ => ⟨low, distinct⟩⟩

theorem exists_buildChecked_ok_iff (maxDepth : Nat) (forest : List Record) :
    (∃ tree, buildChecked maxDepth forest = .ok tree) ↔
      Rose.forestHeight forest ≤ maxDepth ∧ (forestIds forest).Nodup := by
  rw [← withinLimits_iff, ← Builder.exists_visitAll_ok_iff_withinLimits, buildChecked,
    buildWith_eq_map]
  cases Builder.visitAll (checkRecord maxDepth) [] (Rose.forestPlaced 0 forest) with
  | ok s => simp [Except.map]
  | error failure => simp [Except.map]

theorem eq_build_of_buildChecked {maxDepth : Nat} {forest : List Record} {tree : List PageTree}
    (built : buildChecked maxDepth forest = .ok tree) : tree = build forest := by
  rw [buildChecked, buildWith_eq_map] at built
  rw [build_eq_map]
  cases visited : Builder.visitAll (checkRecord maxDepth) [] (Rose.forestPlaced 0 forest) with
  | ok s =>
    rw [visited] at built
    exact (Except.ok.inj built).symm
  | error failure =>
    rw [visited] at built
    cases built

theorem holds_of_buildChecked_error {maxDepth : Nat} {forest : List Record} {failure : TreeError}
    (failed : buildChecked maxDepth forest = .error failure) : failure.Holds maxDepth forest := by
  obtain ⟨before, place, after, split, within, offends⟩ :=
    Builder.visitAll_checkRecord_eq_error_iff.mp (buildWith_eq_error_iff.mp failed)
  cases offends with
  | depth deep =>
    have leveled : (place.1, place.2.value) ∈ Rose.forestLeveled 0 forest := by
      rw [← Rose.values_forestPlaced, split]
      exact List.mem_map.mpr ⟨place, by simp, rfl⟩
    exact ⟨rfl, Nat.lt_succ_of_le deep, place.1, place.2.value, leveled, rfl, rfl⟩
  | twice low again =>
    have earlier := List.one_le_count_iff.mpr again
    show 2 ≤ (forestIds forest).count place.2.value.id
    rw [← ids_forestPlaced, split, List.map_append, List.map_cons, List.count_append,
      List.count_cons_self]
    exact Nat.add_le_add earlier (Nat.le_add_left 1 _)

namespace Assembly

/-! ### The check of the links -/

variable {records : List Record} {l : Links} {roots : List Nat}

/-- What goes below a position stands there once it is nested. -/
theorem mem_nest_of_mem_below {depth level i : Nat} {place : Nat × Entry}
    (inside : i < records.length)
    (below : place ∈ Rose.forestLeveled (level + 1)
      ((l.attached roots i).flatMap (nest records.toArray l roots depth))) :
    place ∈ Rose.forestLeveled level (nest records.toArray l roots (depth + 1) i) := by
  have nested : nest records.toArray l roots (depth + 1) i =
      [records[i].addChildren ((l.attached roots i).flatMap
        (nest records.toArray l roots depth))] := by
    simp [nest, inside]
  rw [nested, Rose.forestLeveled, Rose.leveled_eq, Rose.addChildren, Rose.children,
    Rose.forestLeveled_append]
  exact List.mem_append_left _ (List.mem_cons_of_mem _ (List.mem_append_right _ below))

theorem value_mem_nest {i : Nat} (inside : i < records.length) (depth level : Nat) :
    (level, records[i].value) ∈
      Rose.forestLeveled level (nest records.toArray l roots (depth + 1) i) := by
  simp [nest, inside, Rose.forestLeveled, Rose.leveled_eq, Rose.addChildren, Rose.value]

/-- What a position brings along stands so many levels below its root as it climbs. -/
theorem mem_nestAll_of_climbs {i k depth : Nat} {place : Nat × Entry}
    (climbs : (Links.ofRecords records).Climbs (Links.ofRecords records).roots i k)
    (enough : k + depth = records.length)
    (member : place ∈ Rose.forestLeveled k (nest records.toArray (Links.ofRecords records)
      (Links.ofRecords records).roots depth i)) :
    place ∈ Rose.forestLeveled 0 (nestAll records) := by
  have count := Links.count_ofRecords records
  induction climbs generalizing depth with
  | root root =>
    rw [Nat.zero_add] at enough
    rw [enough, ← count] at member
    exact Rose.mem_forestLeveled_flatMap.mpr ⟨_, root, member⟩
  | @link i p k inner parent climbs ih =>
    have low := Links.lt_count_of_parent? parent
    have below : i ∈ (Links.ofRecords records).attached (Links.ofRecords records).roots p :=
      mem_attached_iff.mpr ⟨low, parent, inner⟩
    have above : p < records.length := count ▸ Links.closed_ofRecords records i p parent
    have fits : k + (depth + 1) = records.length := by omega
    apply ih fits
    exact mem_nest_of_mem_below above (Rose.mem_forestLeveled_flatMap.mpr ⟨i, below, member⟩)

/-- A record that is visited stands in the forest at the level of the visit. -/
theorem exists_mem_assemble_of_mem_visits {place : Nat × Nat} (member : place ∈ visits records) :
    ∃ r, records[place.2]? = some r ∧
      (place.1, r.value) ∈ Rose.forestLeveled 0 (assemble records) := by
  have count := Links.count_ofRecords records
  have climbs := climbs_of_mem_visits member
  have near := climbs.lt_count fun _ => Links.lt_count_of_mem_roots
  have inside := count ▸ climbs.inside fun _ => Links.lt_count_of_mem_roots
  obtain ⟨depth, enough⟩ := Nat.exists_eq_add_of_lt (count ▸ near)
  refine ⟨records[place.2], List.getElem?_eq_getElem inside, ?_⟩
  rw [assemble_eq_nestAll]
  exact mem_nestAll_of_climbs climbs enough.symm (value_mem_nest inside depth place.1)

end Assembly

theorem assembleChecked_cases (maxDepth : Nat) (records : List Record) :
    assembleChecked maxDepth records = .ok (assemble records) ∨
      ∃ failure, assembleChecked maxDepth records = .error failure ∧
        maxDepth < Rose.forestHeight (assemble records) ∧
        failure.Holds maxDepth (assemble records) := by
  unfold assembleChecked
  rw [Assembly.assembleWith_eq, ← Assembly.assemble_eq_nestAll]
  rcases Assembly.visitAll_cases _ (Assembly.visits records) with
    passed | ⟨place, failure, visited, failed, stopped⟩
  · rw [passed]
    exact Or.inl rfl
  · obtain ⟨r, found, member⟩ := Assembly.exists_mem_assemble_of_mem_visits visited
    have height := Rose.lt_of_mem_forestLeveled member
    rw [Assembly.visitAt, List.getElem?_toArray, found] at failed
    dsimp only at failed
    split at failed
    · next deep =>
      cases failed
      rw [stopped]
      exact Or.inr ⟨_, rfl, by omega, rfl, by omega, place.1, r.value, member, rfl, rfl⟩
    · cases failed

namespace Viewport

/-- A viewport in which nothing has been selected yet. -/
def unopened (settings : ViewerSettings) (task : Option Task) (tree : List PageTree) : Viewport where
  tree := tree
  task := task
  expansion := .ofKeys (Expansion.initial tree)
  outlineLevel := settings.outlineLevel
  renderer := { settings := settings.engine, debounce := settings.debounce }

theorem ofRecords_eq_map (settings : ViewerSettings) (records : List Record) (task : Option Task) :
    Viewport.ofRecords settings records task =
      (assembleChecked settings.maxDepth records >>= buildChecked settings.maxDepth).map fun tree =>
        match firstDocument? tree with
        | none => unopened settings task tree
        | some t => ((unopened settings task tree).select t.value.key).2 := by
  unfold ofRecords
  cases assembleChecked settings.maxDepth records with
  | error failure => rfl
  | ok forest =>
    simp only [bind, Except.bind]
    cases buildChecked settings.maxDepth forest with
    | error failure => rfl
    | ok tree =>
      simp only [Except.map]
      cases firstDocument? tree <;> rfl

theorem tree_select (v : Viewport) (key : NodeKey) : (v.select key).2.tree = v.tree := by
  unfold select
  split <;> rfl

theorem map_tree_ofRecords (settings : ViewerSettings) (records : List Record)
    (task : Option Task) :
    (Viewport.ofRecords settings records task).map Viewport.tree =
      assembleChecked settings.maxDepth records >>= buildChecked settings.maxDepth := by
  rw [ofRecords_eq_map]
  cases assembleChecked settings.maxDepth records >>= buildChecked settings.maxDepth with
  | error failure => rfl
  | ok tree =>
    simp only [Except.map]
    cases firstDocument? tree with
    | none => rfl
    | some t => exact congrArg Except.ok (tree_select _ _)

end Viewport

/-- Opening a catalogue succeeds exactly if the assembled forest keeps to the limits, and then shows
the tree that is built of any forest; otherwise the error says what is so. -/
theorem opening_keeps_limits (settings : ViewerSettings) (records : List Record)
    (task : Option Task) :
    let checked := assembleChecked settings.maxDepth records >>= buildChecked settings.maxDepth
    (Viewport.ofRecords settings records task).map Viewport.tree = checked ∧
      ((∃ tree, checked = .ok tree) ↔
        Rose.forestHeight (assemble records) ≤ settings.maxDepth ∧
          (forestIds (assemble records)).Nodup) ∧
      (∀ tree, checked = .ok tree → tree = build (assemble records)) ∧
      ∀ failure, checked = .error failure → failure.Holds settings.maxDepth (assemble records) := by
  intro checked
  refine ⟨Viewport.map_tree_ofRecords settings records task, ?_⟩
  rcases assembleChecked_cases settings.maxDepth records with passed | ⟨first, failed, deep, holds⟩
  · have same : checked = buildChecked settings.maxDepth (assemble records) := by
      simp [checked, passed, bind, Except.bind]
    rw [same]
    exact ⟨exists_buildChecked_ok_iff _ _, fun _ => eq_build_of_buildChecked,
      fun _ => holds_of_buildChecked_error⟩
  · have same : checked = .error first := by
      simp [checked, failed, bind, Except.bind]
    rw [same]
    refine ⟨?_, ?_, ?_⟩
    · constructor
      · rintro ⟨_, impossible⟩
        cases impossible
      · exact fun ⟨low, _⟩ => absurd low (Nat.not_le.mpr deep)
    · intro tree impossible
      cases impossible
    · rintro failure ⟨rfl⟩
      exact holds

end CatalogueViewer
