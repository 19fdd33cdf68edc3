import CatalogueViewer.Proofs.Tree.Breadth

/-!
# Building the records

Assembly builds the records from the last that it came to back to the first, so that each finds
those below it built.  What comes out is the forest that the parent links describe, after a visit of
every record below a root: `assembleWith_eq`.
-/

namespace CatalogueViewer.Assembly

open Links (Climbs)

variable {ε : Type} {l : Links} {roots : List Nat} {i : Nat}

namespace Pass

variable {p : Pass}

/-! ### The roots -/

/-- Of the starts, those without a parent become roots first. -/
theorem Picks.of_unlinked {free rest more : List Nat} (picks : Picks l roots (free ++ rest) more)
    (unlinked : ∀ i ∈ free, l.parent? i = none) (distinct : free.Nodup)
    (apart : ∀ i ∈ free, i ∉ roots) :
    ∃ late, more = free ++ late ∧ Picks l (roots ++ free) rest late := by
  induction free generalizing roots more with
  | nil => exact ⟨more, rfl, by rwa [List.append_nil]⟩
  | cons i free ih =>
    obtain ⟨alone, unlinked⟩ := List.forall_mem_cons.mp unlinked
    obtain ⟨once, distinct⟩ := List.nodup_cons.mp distinct
    obtain ⟨new, apart⟩ := List.forall_mem_cons.mp apart
    rw [List.cons_append] at picks
    cases picks with
    | skip climbs =>
      cases climbs with
      | root member => exact absurd member new
      | link _ parent => rw [alone] at parent; cases parent
    | pick _ picks =>
      obtain ⟨late, rfl, later⟩ := ih picks unlinked distinct fun j member known => by
        rcases List.mem_append.mp known with old | same
        · exact apart j member old
        · exact once (List.mem_singleton.mp same ▸ member)
      rw [List.append_assoc, List.singleton_append] at later
      exact ⟨late, rfl, later⟩

/-- After them come the roots that break cycles. -/
theorem Picks.cycleRoots_eq {found rest more : List Nat} (closed : l.Closed)
    (picks : Picks l (l.unlinked ++ found) rest more) (inside : ∀ i ∈ rest, i < l.count)
    (known : ∀ i ∈ found, i < l.count) : l.cycleRoots found rest = found ++ more := by
  induction rest generalizing found more with
  | nil =>
    cases picks
    exact (List.append_nil found).symm
  | cons i rest ih =>
    obtain ⟨here, inside⟩ := List.forall_mem_cons.mp inside
    have within : ∀ r ∈ l.unlinked ++ found, r < l.count := fun r member =>
      (List.mem_append.mp member).elim (fun free => (Links.mem_unlinked_iff.mp free).1) (known r)
    rw [Links.cycleRoots]
    cases picks with
    | skip climbs picks =>
      have near := climbs.lt_count within
      rw [if_pos (climbs.reaches (Nat.lt_succ_of_lt near))]
      exact ih picks inside known
    | pick loose picks =>
      have beyond : ¬ l.reaches found (l.count + 1) i = true := fun reached =>
        (Links.exists_climbs_of_reaches closed here reached).elim loose
      rw [List.append_assoc] at picks
      rw [if_neg beyond, ih picks inside, List.append_assoc, List.singleton_append]
      intro j member
      rcases List.mem_append.mp member with old | same
      · exact known j old
      · rwa [List.mem_singleton.mp same]

theorem tracks_new (l : Links) : Tracks l (new l.count) where
  sizes := by simp [new]
  visited i inside := by simp [isVisited, new, seen, inside]
  inside i seen := by cases seen
  distinct := List.nodup_nil
  rooted i root := by cases root
  climbs i seen := by cases seen
  attached i seen := by cases seen
  fresh i _ := by
    simp only [attachedTo?, levelOf, new, Array.getD_eq_getD_getElem?, Array.getElem?_replicate]
    constructor <;> split <;> rfl
  above i seen := by cases seen
  below a done := by cases done
  ordered := List.Pairwise.nil

/-- The pass ends at every record, with the roots of the payload. -/
theorem exists_passed (closed : l.Closed) :
    ∃ q, Tracks l q ∧ q.queue = [] ∧ q.roots = l.roots ∧
      ∀ {ε : Type} (visit : Visit ε), run visit l =
        visitAll visit (l.roots.flatMap fun i => breadth l l.roots l.count 0 [i]) >>=
          fun _ => .ok q := by
  have all : ∀ i ∈ List.range l.count, i < l.count := fun i member => List.mem_range.mp member
  have starts : ∀ i ∈ l.unlinked ++ List.range l.count, i < l.count := fun i member =>
    (List.mem_append.mp member).elim (fun free => (Links.mem_unlinked_iff.mp free).1) (all i)
  obtain ⟨q, more, tracks, empty, picks, roots, runs⟩ := (tracks_new l).exists_run rfl starts
  obtain ⟨late, rfl, later⟩ := picks.of_unlinked
    (fun i free => (Links.mem_unlinked_iff.mp free).2) (List.nodup_range.filter _)
    fun i _ known => by cases known
  have same : l.cycleRoots [] (List.range l.count) = late := by
    apply Picks.cycleRoots_eq closed _ all (fun i known => by cases known)
    rw [List.append_nil]
    exact later
  have found : q.roots = l.roots := by
    rw [roots, Links.roots, same]
    rfl
  refine ⟨q, tracks, empty, found, fun visit => ?_⟩
  have more : l.unlinked ++ late = l.roots := by rw [Links.roots, same]
  rw [run, runs visit, found, more]

/-! ### From the last to the first -/

variable {records : List Record} {late : List Nat} {built : Array (Option Record)}

/-- The positions are built, each with all that nests below it. -/
structure Builds (records : List Record) (l : Links) (p : Pass) (late : List Nat)
    (built : Array (Option Record)) : Prop where
  size : built.size = records.length
  nested : ∀ i ∈ late,
    (built.getD i none).toList = nest records.toArray l p.roots (l.count - p.levelOf i) i

/-- At the end of the pass, what is attached to a position is all that goes below it. -/
theorem Tracks.filter_attachedTo (tracks : Tracks l p) (complete : ∀ j < l.count, j ∈ p.seen)
    (inside : i < l.count) :
    ((l.children.getD i []).filter fun j => p.attachedTo? j == some i) =
      l.attached p.roots i := by
  rw [getD_children inside, List.filter_filter, Links.attached]
  apply List.filter_congr
  intro j member
  rw [tracks.attached j (complete j (List.mem_range.mp member))]
  by_cases root : j ∈ p.roots <;> simp [root, Bool.and_comm]

theorem Tracks.builds_cons (tracks : Tracks l p) (complete : ∀ j < l.count, j ∈ p.seen)
    (count : l.count = records.length) (inside : i < l.count) (fresh : i ∉ late)
    (below : ∀ j ∈ l.attached p.roots i, j ∈ late) (builds : Builds records l p late built) :
    Builds records l p (i :: late) (buildOne records.toArray l.children p built i) := by
  have found : records.toArray[i]? = some records[i] := by simp [count ▸ inside]
  have low : p.levelOf i < l.count :=
    (tracks.climbs i (complete i inside)).lt_count tracks.lt_count_of_root
  obtain ⟨depth, enough⟩ := Nat.exists_eq_succ_of_ne_zero (Nat.sub_ne_zero_of_lt low)
  have each : (l.attached p.roots i).filterMap (fun j => built.getD j none) =
      (l.attached p.roots i).flatMap (nest records.toArray l p.roots depth) := by
    rw [List.filterMap_eq_flatMap_toList]
    apply List.flatMap_congr
    intro j attached
    obtain ⟨within, parent, inner⟩ := mem_attached_iff.mp attached
    have level := (tracks.climbs j (complete j within)).unique
      (.link inner parent (tracks.climbs i (complete i inside)))
    rw [builds.nested j (below j attached), level]
    congr 1
    omega
  rw [buildOne, found]
  dsimp only
  rw [tracks.filter_attachedTo complete inside, each]
  refine ⟨by rw [Array.size_setIfInBounds, builds.size], fun j member => ?_⟩
  rw [getD_setIfInBounds]
  rcases List.mem_cons.mp member with rfl | old
  · rw [if_pos ⟨rfl, builds.size ▸ count ▸ inside⟩, enough, nest, found]
    rfl
  · have other : ¬ (i = j ∧ i < built.size) := fun both => fresh (both.1 ▸ old)
    rw [if_neg other, builds.nested j old]

/-- Whatever goes below a position comes after it. -/
theorem Tracks.mem_of_attached (tracks : Tracks l p) {early : List Nat}
    (order : p.seen = early ++ i :: late) {j : Nat} (attached : j ∈ l.attached p.roots i)
    (seen : j ∈ p.seen) : j ∈ late := by
  obtain ⟨-, parent, inner⟩ := mem_attached_iff.mp attached
  have ordered := tracks.ordered
  rw [order, List.pairwise_append] at ordered
  have member := seen
  rw [order] at member
  rcases List.mem_append.mp member with before | after
  · exact absurd (ordered.2.2 j before i List.mem_cons_self parent) inner
  · rcases List.mem_cons.mp after with rfl | after
    · have climbs := tracks.climbs j seen
      have again := climbs.unique (.link inner parent climbs)
      omega
    · exact after

theorem Tracks.builds (tracks : Tracks l p) (complete : ∀ j < l.count, j ∈ p.seen)
    (count : l.count = records.length) {early : List Nat} (order : p.seen = early ++ late) :
    Builds records l p late (late.reverse.foldl (buildOne records.toArray l.children p)
      (Array.replicate records.length none)) := by
  -- The fold over the reversed order builds the head of what is left last.
  induction late generalizing early with
  | nil => exact ⟨Array.size_replicate, fun i member => by cases member⟩
  | cons i late ih =>
    have distinct := tracks.distinct
    rw [order, List.nodup_append, List.nodup_cons] at distinct
    have inside := tracks.inside i (by simp [order])
    have split : p.seen = (early ++ [i]) ++ late := by simpa using order
    rw [List.reverse_cons, List.foldl_append]
    refine tracks.builds_cons complete count inside distinct.2.1.1 (fun j attached => ?_) (ih split)
    exact tracks.mem_of_attached order attached (complete j (mem_attached_iff.mp attached).1)

/-- The roots of a complete pass, once they are built, are the forest that the links describe. -/
theorem Tracks.roots_filterMap_build (tracks : Tracks l p) (empty : p.queue = [])
    (complete : ∀ j < l.count, j ∈ p.seen) (count : l.count = records.length) :
    (p.roots.filterMap fun i => (p.build records.toArray l.children).getD i none) =
      p.roots.flatMap (nest records.toArray l p.roots l.count) := by
  have order : p.seen = [] ++ p.order := by rw [seen, empty, List.append_nil, List.nil_append]
  have builds := tracks.builds complete count order
  rw [List.filterMap_eq_flatMap_toList]
  apply List.flatMap_congr
  intro r root
  have level := (tracks.climbs r (tracks.rooted r root)).unique (.root root)
  have done : r ∈ p.order := by
    rw [← List.nil_append p.order, ← order]
    exact tracks.rooted r root
  have nested := builds.nested r done
  rw [level, Nat.sub_zero] at nested
  exact nested

end Pass

/-! ### Nothing is linked -/

variable {records : List Record}

theorem attached_of_unlinked (unlinked : ∀ i, l.parent? i = none) : l.attached roots i = [] :=
  List.filter_eq_nil_iff.mpr fun j _ => by simp [unlinked j]

theorem breadth_of_unlinked (unlinked : ∀ i, l.parent? i = none) (depth level : Nat)
    (row : List Nat) : Pass.breadth l roots depth level row = [] := by
  induction depth generalizing level row with
  | zero => rfl
  | succ depth ih =>
    have next : row.flatMap (l.attached roots) = [] :=
      List.flatMap_eq_nil_iff.mpr fun i _ => attached_of_unlinked unlinked
    rw [Pass.breadth, next, List.map_nil, List.nil_append, ih]

theorem roots_of_unlinked (unlinked : ∀ i, l.parent? i = none) : l.roots = List.range l.count := by
  have all : l.unlinked = List.range l.count :=
    List.filter_eq_self.mpr fun i _ => by rw [unlinked i]; rfl
  rw [← all]
  apply Links.roots_eq_unlinked
  exact fun i inside => ⟨0, .root (Links.mem_unlinked_iff.mpr ⟨inside, unlinked i⟩)⟩

theorem addChildren_nil (r : Record) : r.addChildren [] = r := by
  rw [Rose.addChildren, List.append_nil]
  cases r
  rfl

theorem nest_of_unlinked (unlinked : ∀ i, l.parent? i = none) (depth : Nat)
    (i : Fin records.length) :
    nest records.toArray l roots (depth + 1) i = [records.get i] := by
  simp [nest, attached_of_unlinked unlinked, addChildren_nil]

theorem flatMap_nest_of_unlinked (unlinked : ∀ i, l.parent? i = none) (roots : List Nat) :
    (List.range records.length).flatMap (nest records.toArray l roots records.length) =
      records := by
  cases records with
  | nil => rfl
  | cons r rest =>
    have each : (fun i : Fin (r :: rest).length =>
        nest (r :: rest).toArray l roots (r :: rest).length i) = fun i => [(r :: rest).get i] :=
      funext (nest_of_unlinked unlinked rest.length)
    rw [← List.map_coe_finRange_eq_range, List.flatMap_map, each, ← List.map_eq_flatMap]
    exact List.map_getElem_finRange (r :: rest)

theorem nestAll_of_unlinked (unlinked : ∀ i, (Links.ofRecords records).parent? i = none) :
    nestAll records = records := by
  rw [nestAll, roots_of_unlinked unlinked, Links.count_ofRecords]
  exact flatMap_nest_of_unlinked unlinked _

theorem parents_all_isNone_iff : l.parents.all Option.isNone = true ↔ ∀ i, l.parent? i = none := by
  rw [Array.all_eq_true]
  constructor
  · intro all i
    by_cases inside : i < l.parents.size
    · simpa [Links.parent?, inside] using all i inside
    · simp [Links.parent?, inside]
  · intro all i inside
    simpa [Links.parent?, inside] using all i

/-! ### Assembly -/

/-- The positions that are visited, each with its level. -/
def visits (records : List Record) : List (Nat × Nat) :=
  let l := Links.ofRecords records
  l.roots.flatMap fun i => Pass.breadth l l.roots l.count 0 [i]

/-- Each of them is visited at the level to which its links lead. -/
theorem climbs_of_mem_breadth {row : List Nat} {depth level : Nat} {place : Nat × Nat}
    (climbs : ∀ i ∈ row, Climbs l roots i level)
    (member : place ∈ Pass.breadth l roots depth level row) :
    Climbs l roots place.2 place.1 := by
  induction depth generalizing row level with
  | zero => cases member
  | succ depth ih =>
    have next := climbs_flatMap_attached climbs
    rw [Pass.breadth] at member
    rcases List.mem_append.mp member with here | later
    · obtain ⟨j, below, rfl⟩ := List.mem_map.mp here
      exact next j below
    · exact ih next later

theorem climbs_of_mem_visits {place : Nat × Nat} (member : place ∈ visits records) :
    Climbs (Links.ofRecords records) (Links.ofRecords records).roots place.2 place.1 := by
  obtain ⟨r, root, below⟩ := List.mem_flatMap.mp member
  exact climbs_of_mem_breadth (List.forall_mem_singleton.mpr (.root root)) below

/-- The visit of a record, by its position. -/
def visitAt (visit : Record → Nat → Except ε Unit) (records : List Record) : Visit ε :=
  fun i level =>
    match records.toArray[i]? with
    | none => .ok ()
    | some r => visit r level

/-- Assembly visits the records below the roots, row by row, and then nests them all. -/
theorem assembleWith_eq (visit : Record → Nat → Except ε Unit) (records : List Record) :
    assembleWith visit records =
      visitAll (visitAt visit records) (visits records) >>= fun _ => .ok (nestAll records) := by
  have count := Links.count_ofRecords records
  have closed := Links.closed_ofRecords records
  rw [assembleWith]
  split
  · next alone =>
    have unlinked := parents_all_isNone_iff.mp alone
    have nowhere : visits records = [] :=
      List.flatMap_eq_nil_iff.mpr fun i _ => breadth_of_unlinked unlinked _ _ _
    rw [nowhere, nestAll_of_unlinked unlinked]
    rfl
  · obtain ⟨q, tracks, empty, roots, runs⟩ := Pass.exists_passed closed
    have complete : ∀ j < (Links.ofRecords records).count, j ∈ q.seen := by
      intro j inside
      obtain ⟨k, -, climbs⟩ := Links.exists_climbs_roots closed inside
      exact (tracks.mem_seen_iff empty).mpr ⟨k, roots ▸ climbs⟩
    have built := tracks.roots_filterMap_build empty complete count
    have same : q.roots.flatMap (nest records.toArray (Links.ofRecords records) q.roots
        (Links.ofRecords records).count) = nestAll records := by
      rw [roots]
      rfl
    rw [same] at built
    change Pass.run (visitAt visit records) (Links.ofRecords records) >>= _ = _
    rw [runs, bind_assoc]
    exact congrArg _ (funext fun _ => congrArg Except.ok built)

theorem assemble_eq_nestAll (records : List Record) : assemble records = nestAll records := by
  unfold assemble
  rw [assembleWith_eq]
  cases visitAll (visitAt (ε := Empty) (fun _ _ => .ok ()) records) (visits records) with
  | ok => rfl
  | error impossible => cases impossible

end CatalogueViewer.Assembly
