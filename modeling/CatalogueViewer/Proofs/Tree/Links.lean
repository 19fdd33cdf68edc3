import CatalogueViewer.Proofs.Tree.Nesting

/-!
# Climbing the parent links

However the parents of a payload are linked, each of its positions climbs to exactly one root in
fewer links than there are records, and each root is listed once.
-/

namespace CatalogueViewer.Assembly.Links

/-- The first of `roots` on the way up from a position is so many links away. -/
inductive Climbs (l : Links) (roots : List Nat) : Nat → Nat → Prop where
  | root {i : Nat} (member : i ∈ roots) : Climbs l roots i 0
  | link {i p steps : Nat} (below : i ∉ roots) (parent : l.parent? i = some p)
      (climbs : Climbs l roots p steps) : Climbs l roots i (steps + 1)

/-- All links stay within the payload. -/
def Closed (l : Links) : Prop := ∀ i p, l.parent? i = some p → p < l.count

variable {l : Links} {roots : List Nat}

theorem parent?_ofRecords (records : List Record) (i : Nat) :
    (ofRecords records).parent? i = records[i]?.bind fun r =>
      match r.value.parent.bind (position? records) with
      | none => none
      | some p => if p = i then none else some p := by
  simp only [parent?, ofRecords, List.getElem?_toArray, List.getElem?_mapIdx]
  cases records[i]? <;> rfl

theorem count_ofRecords (records : List Record) : (ofRecords records).count = records.length := by
  simp [count, ofRecords]

theorem position?_eq_some_iff {records : List Record} {id : NodeKey} {p : Nat} :
    position? records id = some p ↔ ∃ r, records[p]? = some r ∧ r.value.id = id ∧
      ∀ k < p, ∀ s, records[k]? = some s → s.value.id ≠ id := by
  unfold position?
  rw [List.findIdx?_eq_some_iff_getElem]
  constructor
  · rintro ⟨inside, same, before⟩
    refine ⟨records[p], List.getElem?_eq_getElem inside, by simpa using same, ?_⟩
    intro k lower s found
    obtain ⟨_, rfl⟩ := List.getElem?_eq_some_iff.mp found
    simpa using before k lower
  · rintro ⟨r, found, same, before⟩
    obtain ⟨inside, rfl⟩ := List.getElem?_eq_some_iff.mp found
    refine ⟨inside, by simpa using same, ?_⟩
    intro k lower
    simpa using before k lower _ (List.getElem?_eq_getElem (Nat.lt_trans lower inside))

theorem parent?_ofRecords_eq_some_iff {records : List Record} {i p : Nat} :
    (ofRecords records).parent? i = some p ↔ ∃ r id, records[i]? = some r ∧
      r.value.parent = some id ∧ position? records id = some p ∧ p ≠ i := by
  rw [parent?_ofRecords]
  constructor
  · intro linked
    obtain ⟨r, found, linked⟩ := Option.bind_eq_some_iff.mp linked
    split at linked
    · cases linked
    · next q named =>
      obtain ⟨different, same⟩ := Option.ite_none_left_eq_some.mp linked
      obtain rfl := Option.some.inj same
      obtain ⟨id, parent, position⟩ := Option.bind_eq_some_iff.mp named
      exact ⟨r, id, found, parent, position, different⟩
  · rintro ⟨r, id, found, parent, position, different⟩
    simp [found, parent, position, different]

theorem closed_ofRecords (records : List Record) : Closed (ofRecords records) := by
  intro i p linked
  obtain ⟨_, _, _, _, position, _⟩ := parent?_ofRecords_eq_some_iff.mp linked
  obtain ⟨_, found, _⟩ := position?_eq_some_iff.mp position
  rw [count_ofRecords]
  exact (List.getElem?_eq_some_iff.mp found).1

theorem lt_count_of_parent? {i p : Nat} (linked : l.parent? i = some p) : i < l.count :=
  (Array.getElem?_eq_some_iff.mp (Option.join_eq_some_iff.mp linked)).1

theorem mem_unlinked_iff {i : Nat} : i ∈ l.unlinked ↔ i < l.count ∧ l.parent? i = none := by
  simp [unlinked]

/-! ### Ways to a root -/

theorem Climbs.unique {i m n : Nat} (one : Climbs l roots i m) (other : Climbs l roots i n) :
    m = n := by
  induction one generalizing n with
  | root member =>
    cases other with
    | root => rfl
    | link below => exact absurd member below
  | link below parent _ ih =>
    cases other with
    | root member => exact absurd member below
    | link _ also climbs =>
      have same := Option.some.inj (parent.symm.trans also)
      subst same
      rw [ih climbs]

/-- With more roots there still is a way up. -/
theorem Climbs.exists_of_subset {more : List Nat} {i k : Nat} (climbs : Climbs l roots i k)
    (sub : roots ⊆ more) : ∃ n, Climbs l more i n := by
  induction climbs with
  | root member => exact ⟨0, .root (sub member)⟩
  | @link i p steps below parent _ ih =>
    obtain ⟨n, climbs⟩ := ih
    by_cases member : i ∈ more
    · exact ⟨0, .root member⟩
    · exact ⟨n + 1, .link member parent climbs⟩

theorem Climbs.inside {i k : Nat} (inside : ∀ r ∈ roots, r < l.count)
    (climbs : Climbs l roots i k) : i < l.count := by
  cases climbs with
  | root member => exact inside i member
  | link _ parent => exact lt_count_of_parent? parent

/-- The positions on the way up are distinct: each is nearer to the root than the one before. -/
theorem Climbs.exists_path {i k : Nat} (inside : ∀ r ∈ roots, r < l.count)
    (climbs : Climbs l roots i k) :
    ∃ path : List Nat, path.length = k + 1 ∧ path.Nodup ∧
      ∀ x ∈ path, x < l.count ∧ ∃ n ≤ k, Climbs l roots x n := by
  induction climbs with
  | @root i member =>
    refine ⟨[i], rfl, by simp, fun x here => ?_⟩
    have same := List.mem_singleton.mp here
    subst same
    exact ⟨inside x member, 0, Nat.le_refl 0, .root member⟩
  | @link i p steps below parent climbs ih =>
    obtain ⟨path, length, distinct, ways⟩ := ih
    have climbsToo := Climbs.link below parent climbs
    refine ⟨i :: path, by simp [length], List.nodup_cons.mpr ⟨fun here => ?_, distinct⟩, ?_⟩
    · obtain ⟨_, n, near, again⟩ := ways i here
      have equal := again.unique climbsToo
      omega
    · intro x here
      rcases List.mem_cons.mp here with same | above
      · subst same
        exact ⟨lt_count_of_parent? parent, steps + 1, Nat.le_refl _, climbsToo⟩
      · obtain ⟨lower, n, near, climbs⟩ := ways x above
        exact ⟨lower, n, by omega, climbs⟩

theorem Climbs.lt_count {i k : Nat} (inside : ∀ r ∈ roots, r < l.count)
    (climbs : Climbs l roots i k) : k < l.count := by
  obtain ⟨path, length, distinct, ways⟩ := climbs.exists_path inside
  have within : path ⊆ List.range l.count := fun x here => List.mem_range.mpr (ways x here).1
  have bound := distinct.length_le_of_subset within
  rw [List.length_range] at bound
  omega

/-! ### The roots -/

theorem reaches_of_mem {found : List Nat} {i : Nat} (steps : Nat) (member : i ∈ found) :
    l.reaches found (steps + 1) i = true := by
  unfold reaches
  cases l.parent? i with
  | none => rfl
  | some p => simp [member]

theorem exists_climbs_of_reaches {found : List Nat} {steps i : Nat} (closed : l.Closed)
    (inside : i < l.count) (reached : l.reaches found steps i = true) :
    ∃ k, Climbs l (l.unlinked ++ found) i k := by
  induction steps generalizing i with
  | zero => cases reached
  | succ steps ih =>
    unfold reaches at reached
    cases linked : l.parent? i with
    | none => exact ⟨0, .root (List.mem_append_left _ (mem_unlinked_iff.mpr ⟨inside, linked⟩))⟩
    | some p =>
      by_cases member : i ∈ l.unlinked ++ found
      · exact ⟨0, .root member⟩
      · have beyond : i ∉ found := fun here => member (List.mem_append_right _ here)
        rw [linked] at reached
        have onward : l.reaches found steps p = true := by simpa [beyond] using reached
        obtain ⟨k, climbs⟩ := ih (closed i p linked) onward
        exact ⟨k + 1, .link member linked climbs⟩

theorem subset_cycleRoots (found rest : List Nat) : found ⊆ l.cycleRoots found rest := by
  induction rest generalizing found with
  | nil => exact List.Subset.refl _
  | cons i rest ih =>
    unfold cycleRoots
    split
    · exact ih found
    · exact fun x member => ih _ (List.mem_append_left _ member)

/-- Every position that has been looked at climbs to a root. -/
theorem exists_climbs_cycleRoots (closed : l.Closed) (found rest : List Nat)
    (inside : ∀ i ∈ rest, i < l.count) :
    ∀ i ∈ rest, ∃ k, Climbs l (l.unlinked ++ l.cycleRoots found rest) i k := by
  induction rest generalizing found with
  | nil => simp
  | cons i rest ih =>
    have later : ∀ x ∈ rest, x < l.count := fun x member => inside x (List.mem_cons_of_mem _ member)
    intro x member
    unfold cycleRoots
    rcases List.mem_cons.mp member with same | other
    · subst same
      split
      · next reached =>
        obtain ⟨k, climbs⟩ := exists_climbs_of_reaches closed (inside x List.mem_cons_self) reached
        exact climbs.exists_of_subset
          (List.append_subset.mpr ⟨List.subset_append_left _ _,
            fun y here => List.mem_append_right _ (subset_cycleRoots found rest here)⟩)
      · have here := subset_cycleRoots (l := l) (found ++ [x]) rest
          (List.mem_append_right found List.mem_cons_self)
        exact ⟨0, .root (List.mem_append_right _ here)⟩
    · split
      · exact ih found later x other
      · exact ih _ later x other

/-- Roots that break cycles are linked positions, each listed once. -/
theorem cycleRoots_spec {found : List Nat} (rest : List Nat) (distinct : found.Nodup)
    (linked : ∀ i ∈ found, l.parent? i ≠ none) :
    (l.cycleRoots found rest).Nodup ∧ ∀ i ∈ l.cycleRoots found rest, l.parent? i ≠ none := by
  induction rest generalizing found with
  | nil => exact ⟨distinct, linked⟩
  | cons i rest ih =>
    unfold cycleRoots
    split
    · exact ih distinct linked
    · next unreached =>
      have fresh : i ∉ found := fun member => unreached (reaches_of_mem _ member)
      have named : l.parent? i ≠ none := by
        intro none
        apply unreached
        unfold reaches
        rw [none]
      apply ih
      · rw [List.nodup_append]
        refine ⟨distinct, by simp, fun x old y new same => ?_⟩
        rw [List.mem_singleton.mp new] at same
        exact fresh (same ▸ old)
      · intro x member
        rcases List.mem_append.mp member with old | new
        · exact linked x old
        · rw [List.mem_singleton.mp new]
          exact named

theorem lt_count_of_mem_roots {i : Nat} (member : i ∈ l.roots) : i < l.count := by
  rcases List.mem_append.mp member with free | cyclic
  · exact (mem_unlinked_iff.mp free).1
  · have named := (cycleRoots_spec (l := l) (List.range l.count) List.nodup_nil
      (by simp)).2 i cyclic
    obtain ⟨p, linked⟩ := Option.ne_none_iff_exists'.mp named
    exact lt_count_of_parent? linked

theorem nodup_roots (l : Links) : l.roots.Nodup := by
  obtain ⟨distinct, linked⟩ := cycleRoots_spec (l := l) (List.range l.count)
    List.nodup_nil (by simp)
  unfold roots
  rw [List.nodup_append]
  refine ⟨List.nodup_range.filter _, distinct, fun i free j cyclic same => ?_⟩
  subst same
  exact linked i cyclic (mem_unlinked_iff.mp free).2

theorem exists_climbs_roots {i : Nat} (closed : l.Closed) (inside : i < l.count) :
    ∃ k < l.count, Climbs l l.roots i k := by
  obtain ⟨k, climbs⟩ := exists_climbs_cycleRoots closed [] (List.range l.count)
    (fun x member => List.mem_range.mp member) i (List.mem_range.mpr inside)
  exact ⟨k, climbs.lt_count fun _ member => lt_count_of_mem_roots member, climbs⟩

theorem Climbs.reaches {found : List Nat} {i k steps : Nat}
    (climbs : Climbs l (l.unlinked ++ found) i k) (near : k < steps) :
    l.reaches found steps i = true := by
  induction climbs generalizing steps with
  | root member =>
    obtain ⟨fuel, rfl⟩ := Nat.exists_eq_add_of_lt near
    rcases List.mem_append.mp member with free | known
    · unfold Links.reaches
      rw [(mem_unlinked_iff.mp free).2]
    · exact reaches_of_mem _ known
  | link _ parent _ ih =>
    obtain ⟨fuel, rfl⟩ := Nat.exists_eq_add_of_lt near
    unfold Links.reaches
    rw [parent]
    dsimp only
    rw [ih (by omega), Bool.or_true]

theorem cycleRoots_eq_self {found rest : List Nat}
    (reached : ∀ i ∈ rest, l.reaches found (l.count + 1) i = true) :
    l.cycleRoots found rest = found := by
  induction rest with
  | nil => rfl
  | cons i rest ih =>
    unfold cycleRoots
    rw [if_pos (reached i List.mem_cons_self)]
    exact ih fun x member => reached x (List.mem_cons_of_mem _ member)

/-- Where all positions climb to one without a parent, no cycle has to be broken. -/
theorem roots_eq_unlinked (climbing : ∀ i < l.count, ∃ k, Climbs l l.unlinked i k) :
    l.roots = l.unlinked := by
  have acyclic : l.cycleRoots [] (List.range l.count) = [] := by
    apply cycleRoots_eq_self
    intro i member
    obtain ⟨k, climbs⟩ := climbing i (List.mem_range.mp member)
    have near := climbs.lt_count fun r here => (mem_unlinked_iff.mp here).1
    rw [← List.append_nil l.unlinked] at climbs
    exact climbs.reaches (Nat.lt_succ_of_lt near)
  unfold roots
  rw [acyclic, List.append_nil]

end CatalogueViewer.Assembly.Links
