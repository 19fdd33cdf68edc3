import CatalogueViewer.Proofs.Tree.Links
import Mathlib.Data.List.Basic

/-!
# The way through the records

Assembly goes through the records breadth-first.  From each start that has not been reached before,
the way leads row by row through all that is below it, and at the end each record is where its
parent link puts it: `Pass.Tracks.exists_run`.
-/

namespace CatalogueViewer.Assembly

open Links (Climbs)

variable {ε : Type} {visit : Visit ε} {l : Links} {roots : List Nat} {i : Nat}
  {lists : Array (List Nat)}

theorem getD_setIfInBounds {α : Type} (xs : Array α) (i j : Nat) (x d : α) :
    (xs.setIfInBounds i x).getD j d = if i = j ∧ i < xs.size then x else xs.getD j d := by
  rw [Array.getD_eq_getD_getElem?, Array.getD_eq_getD_getElem?, Array.getElem?_setIfInBounds]
  by_cases same : i = j
  · subst same
    by_cases inside : i < xs.size <;> simp [inside]
  · simp [same]

theorem mem_attached_iff {j : Nat} :
    j ∈ l.attached roots i ↔ j < l.count ∧ l.parent? j = some i ∧ j ∉ roots := by
  simp [Links.attached]

/-- What goes below the positions of a row climbs one link more. -/
theorem climbs_flatMap_attached {row : List Nat} {level : Nat}
    (climbs : ∀ i ∈ row, Climbs l roots i level) :
    ∀ j ∈ row.flatMap (l.attached roots), Climbs l roots j (level + 1) := by
  intro j member
  obtain ⟨i, here, below⟩ := List.mem_flatMap.mp member
  obtain ⟨-, parent, inner⟩ := mem_attached_iff.mp below
  exact .link inner parent (climbs i here)

theorem nodup_attached (l : Links) (roots : List Nat) (i : Nat) : (l.attached roots i).Nodup :=
  List.nodup_range.filter _

theorem getD_foldl_enter (within : i < lists.size) (js : List Nat) :
    (js.foldl l.enter lists).getD i [] =
      lists.getD i [] ++ js.filter fun j => l.parent? j == some i := by
  induction js generalizing lists with
  | nil => simp
  | cons j rest ih =>
    rw [List.foldl_cons, Links.enter]
    cases linked : l.parent? j with
    | none =>
      dsimp only
      rw [ih within, List.filter_cons_of_neg (by simp [linked])]
    | some p =>
      dsimp only
      rw [ih (by simpa using within), Array.getD_eq_getD_getElem?, Array.getElem?_modify,
        Array.getD_eq_getD_getElem?, Array.getElem?_eq_getElem within]
      by_cases same : p = i
      · rw [List.filter_cons_of_pos (by simp [linked, same])]
        simp [same]
      · rw [List.filter_cons_of_neg (by simp [linked, same])]
        simp [same]

theorem getD_children (inside : i < l.count) :
    l.children.getD i [] = (List.range l.count).filter fun j => l.parent? j == some i := by
  have empty : (Array.replicate l.count ([] : List Nat)).getD i [] = [] := by
    rw [Array.getD_eq_getD_getElem?, Array.getElem?_replicate]
    split <;> rfl
  rw [Links.children, getD_foldl_enter (by simpa using inside), empty, List.nil_append]

/-- Visits positions one after the other, each with its level. -/
def visitAll (visit : Visit ε) (places : List (Nat × Nat)) : Except ε Unit :=
  places.forM fun place => visit place.2 place.1

theorem visitAll_cons (visit : Visit ε) (place : Nat × Nat) (rest : List (Nat × Nat)) :
    visitAll visit (place :: rest) = visit place.2 place.1 >>= fun _ => visitAll visit rest := rfl

theorem visitAll_append (visit : Visit ε) (xs ys : List (Nat × Nat)) :
    visitAll visit (xs ++ ys) = visitAll visit xs >>= fun _ => visitAll visit ys :=
  List.forM_append

/-- The visits all succeed, or one of them fails and with it the rest. -/
theorem visitAll_cases (visit : Visit ε) (places : List (Nat × Nat)) :
    visitAll visit places = .ok () ∨
      ∃ place e, place ∈ places ∧ visit place.2 place.1 = .error e ∧
        visitAll visit places = .error e := by
  induction places with
  | nil => exact Or.inl rfl
  | cons place rest ih =>
    rw [visitAll_cons]
    cases here : visit place.2 place.1 with
    | error e => exact Or.inr ⟨place, e, List.mem_cons_self, here, rfl⟩
    | ok =>
      rcases ih with passed | ⟨later, e, member, failed, all⟩
      · exact Or.inl passed
      · exact Or.inr ⟨later, e, List.mem_cons_of_mem _ member, failed, all⟩

namespace Pass

variable {p q r : Pass} {current child : Nat} {new : List Nat}

/-! ### One record -/

/-- What has been visited, in that order. -/
def seen (p : Pass) : List Nat := p.order ++ p.queue

/-- The positions are visited below the current one. -/
structure Attaches (current : Nat) (new : List Nat) (p q : Pass) : Prop where
  sizes : q.visited.size = p.visited.size ∧ q.attachedTo.size = p.attachedTo.size ∧
    q.level.size = p.level.size
  visited : ∀ j, q.isVisited j = true ↔ p.isVisited j = true ∨ j ∈ new
  attached : ∀ j ∈ new, j < p.attachedTo.size → q.attachedTo? j = some current
  level : ∀ j ∈ new, j < p.level.size → q.levelOf j = p.levelOf current + 1
  kept : ∀ j, j ∉ new → q.attachedTo? j = p.attachedTo? j ∧ q.levelOf j = p.levelOf j
  order : q.order = p.order
  roots : q.roots = p.roots
  queue : q.queue = p.queue ++ new

theorem attaches_nil (current : Nat) (p : Pass) : Attaches current [] p p where
  sizes := ⟨rfl, rfl, rfl⟩
  visited j := by rw [List.mem_nil_iff, or_false]
  attached := List.forall_mem_nil _
  level := List.forall_mem_nil _
  kept _ _ := ⟨rfl, rfl⟩
  order := rfl
  roots := rfl
  queue := (List.append_nil p.queue).symm

theorem attaches_put (fresh : p.isVisited child = false) :
    Attaches current [child] p (p.put current child) where
  sizes := by simp [put]
  visited j := by
    obtain ⟨inside, -⟩ := Array.getElem?_eq_some_iff.mp (getElem?_of_not_isVisited fresh)
    rw [isVisited, put, getD_setIfInBounds, List.mem_singleton]
    by_cases same : child = j
    · subst same
      simp [inside]
    · simp [same, Ne.symm same, isVisited]
  attached j new within := by
    rw [List.mem_singleton.mp new] at within ⊢
    rw [attachedTo?, put, getD_setIfInBounds, if_pos ⟨rfl, within⟩]
  level j new within := by
    rw [List.mem_singleton.mp new] at within ⊢
    rw [levelOf, put, getD_setIfInBounds, if_pos ⟨rfl, within⟩]
  kept j old := by
    have other : ¬ child = j := fun same => old (List.mem_singleton.mpr same.symm)
    constructor
    · rw [attachedTo?, put, getD_setIfInBounds, if_neg fun both => other both.1]
      rfl
    · rw [levelOf, put, getD_setIfInBounds, if_neg fun both => other both.1]
      rfl
  order := rfl
  roots := rfl
  queue := rfl

theorem Attaches.trans {more : List Nat} (first : Attaches current new p q)
    (second : Attaches current more q r) (here : current ∉ new) (apart : ∀ j ∈ new, j ∉ more) :
    Attaches current (new ++ more) p r where
  sizes := by
    obtain ⟨one, two, three⟩ := first.sizes
    obtain ⟨one', two', three'⟩ := second.sizes
    exact ⟨one'.trans one, two'.trans two, three'.trans three⟩
  visited j := by rw [second.visited, first.visited, List.mem_append, or_assoc]
  attached := by
    intro j member within
    rcases List.mem_append.mp member with old | late
    · rw [(second.kept j (apart j old)).1, first.attached j old within]
    · exact second.attached j late (first.sizes.2.1 ▸ within)
  level := by
    intro j member within
    rcases List.mem_append.mp member with old | late
    · rw [(second.kept j (apart j old)).2, first.level j old within]
    · rw [second.level j late (first.sizes.2.2 ▸ within), (first.kept current here).2]
  kept := by
    intro j absent
    obtain ⟨early, late⟩ := not_or.mp fun either => absent (List.mem_append.mpr either)
    exact ⟨(second.kept j late).1.trans (first.kept j early).1,
      (second.kept j late).2.trans (first.kept j early).2⟩
  order := second.order.trans first.order
  roots := second.roots.trans first.roots
  queue := by rw [second.queue, first.queue, List.append_assoc]

/-- Of the records linked to the current one, those are visited that have not been before. -/
theorem exists_attaches {children : List Nat} (distinct : children.Nodup)
    (here : p.isVisited current = true) :
    ∃ q, Attaches current (children.filter fun j => !p.isVisited j) p q ∧
      ∀ {ε : Type} (visit : Visit ε), children.foldlM (attach visit current) p =
        visitAll visit ((children.filter fun j => !p.isVisited j).map fun j =>
          (p.levelOf current + 1, j)) >>= fun _ => .ok q := by
  induction children generalizing p with
  | nil => exact ⟨p, attaches_nil current p, fun visit => rfl⟩
  | cons child rest ih =>
    obtain ⟨once, distinct⟩ := List.nodup_cons.mp distinct
    cases known : p.isVisited child with
    | true =>
      obtain ⟨q, attaches, runs⟩ := ih distinct here
      rw [List.filter_cons_of_neg (by simp [known])]
      refine ⟨q, attaches, fun visit => ?_⟩
      rw [List.foldlM_cons, attach, if_pos known]
      exact runs visit
    | false =>
      have other : current ≠ child := by
        rintro rfl
        rw [here] at known
        cases known
      have first : Attaches current [child] p (p.put current child) := attaches_put known
      obtain ⟨q, attaches, runs⟩ := ih distinct ((first.visited current).mpr (Or.inl here))
      have same : (rest.filter fun j => !(p.put current child).isVisited j) =
          rest.filter fun j => !p.isVisited j := by
        apply List.filter_congr
        intro j member
        have apart : j ≠ child := fun equal => once (equal ▸ member)
        have kept : (p.put current child).isVisited j = p.isVisited j :=
          Bool.eq_iff_iff.mpr ((first.visited j).trans (by simp [apart]))
        rw [kept]
      rw [same] at attaches runs
      rw [List.filter_cons_of_pos (by simp [known])]
      refine ⟨q, first.trans attaches (by simpa using other) ?_, fun visit => ?_⟩
      · simpa using fun member => absurd member once
      · have level := (first.kept current (by simpa using other)).2
        rw [List.foldlM_cons, attach, if_neg (by simp [known]), List.map_cons, visitAll_cons]
        simp only [bind_assoc, pure_bind, runs visit, level]

/-! ### What the pass has found out -/

/-- The pass has followed the links so far: each position that it has seen is a root or has its
parent among those that are done, and all below those that are done have been seen. -/
structure Tracks (l : Links) (p : Pass) : Prop where
  sizes : p.visited.size = l.count ∧ p.attachedTo.size = l.count ∧ p.level.size = l.count
  visited : ∀ i < l.count, p.isVisited i = true ↔ i ∈ p.seen
  inside : ∀ i ∈ p.seen, i < l.count
  distinct : p.seen.Nodup
  rooted : ∀ i ∈ p.roots, i ∈ p.seen
  climbs : ∀ i ∈ p.seen, Climbs l p.roots i (p.levelOf i)
  attached : ∀ i ∈ p.seen, p.attachedTo? i = if i ∈ p.roots then none else l.parent? i
  fresh : ∀ i, i ∉ p.seen → p.attachedTo? i = none ∧ p.levelOf i = 0
  above : ∀ i ∈ p.seen, i ∉ p.roots → ∃ a ∈ p.order, l.parent? i = some a
  below : ∀ a ∈ p.order, ∀ i, l.parent? i = some a → i ∈ p.seen
  /-- Nothing comes after what goes below it. -/
  ordered : p.seen.Pairwise fun i a => l.parent? i = some a → i ∈ p.roots

theorem mem_seen_of_queue {rest : List Nat} (queue : p.queue = current :: rest) :
    current ∈ p.seen := List.mem_append_right _ (queue ▸ List.mem_cons_self)

theorem Tracks.lt_count_of_root (tracks : Tracks l p) : ∀ r ∈ p.roots, r < l.count :=
  fun r root => tracks.inside r (tracks.rooted r root)

theorem seen_of_queue {rest : List Nat} (queue : p.queue = current :: rest) :
    p.seen = p.order ++ [current] ++ rest := by
  rw [seen, queue, List.append_assoc, List.singleton_append]

/-- Those below the next position have not been seen, but for roots. -/
theorem Tracks.not_mem_seen {rest : List Nat} (tracks : Tracks l p)
    (queue : p.queue = current :: rest) (below : i ∈ l.attached p.roots current) : i ∉ p.seen := by
  obtain ⟨-, parent, inner⟩ := mem_attached_iff.mp below
  intro seen
  obtain ⟨a, done, up⟩ := tracks.above i seen inner
  obtain rfl := Option.some.inj (up.symm.trans parent)
  have distinct := tracks.distinct
  rw [Pass.seen, queue, List.nodup_append] at distinct
  exact distinct.2.2 a done a List.mem_cons_self rfl

theorem Tracks.filter_children {rest : List Nat} (tracks : Tracks l p)
    (queue : p.queue = current :: rest) :
    ((l.children.getD current []).filter fun j => !p.isVisited j) = l.attached p.roots current := by
  have next : current ∈ p.seen := mem_seen_of_queue queue
  rw [getD_children (tracks.inside current next), List.filter_filter, Links.attached]
  apply List.filter_congr
  intro j inside
  have within := List.mem_range.mp inside
  by_cases parent : l.parent? j = some current
  · by_cases root : j ∈ p.roots
    · have known := (tracks.visited j within).mpr (tracks.rooted j root)
      simp [parent, root, known]
    · have new := tracks.not_mem_seen queue (mem_attached_iff.mpr ⟨within, parent, root⟩)
      have fresh : p.isVisited j = false :=
        Bool.eq_false_iff.mpr fun known => new ((tracks.visited j within).mp known)
      simp [parent, root, fresh]
  · rw [beq_false_of_ne parent, Bool.and_false, Bool.false_and]

/-- When the next position is done, with all below it seen, the pass still follows the links. -/
theorem Tracks.attaches {rest : List Nat} (tracks : Tracks l p)
    (queue : p.queue = current :: rest)
    (attaches : Attaches current (l.attached p.roots current)
      { p with order := p.order ++ [current], queue := rest } q) : Tracks l q := by
  have seen : q.seen = p.seen ++ l.attached p.roots current := by
    rw [seen_of_queue queue, Pass.seen, attaches.order, attaches.queue, List.append_assoc]
    simp
  have roots : q.roots = p.roots := attaches.roots
  have order : q.order = p.order ++ [current] := attaches.order
  have new := fun j => tracks.not_mem_seen queue (i := j)
  have old {j : Nat} (member : j ∈ p.seen) : j ∉ l.attached p.roots current :=
    fun late => new j late member
  have next : current ∈ p.seen := mem_seen_of_queue queue
  exact {
    sizes := by
      obtain ⟨one, two, three⟩ := tracks.sizes
      obtain ⟨one', two', three'⟩ := attaches.sizes
      exact ⟨one'.trans one, two'.trans two, three'.trans three⟩
    visited := by
      intro j inside
      rw [attaches.visited, seen, List.mem_append]
      exact or_congr_left (tracks.visited j inside)
    inside := by
      intro j member
      rw [seen] at member
      rcases List.mem_append.mp member with before | late
      · exact tracks.inside j before
      · exact (mem_attached_iff.mp late).1
    distinct := by
      rw [seen, List.nodup_append]
      refine ⟨tracks.distinct, nodup_attached .., fun a before b late same => ?_⟩
      exact new b late (same ▸ before)
    rooted := by
      intro j root
      rw [seen]
      exact List.mem_append_left _ (tracks.rooted j (roots ▸ root))
    climbs := by
      intro j member
      rw [seen] at member
      rw [roots]
      rcases List.mem_append.mp member with before | late
      · exact (attaches.kept j (old before)).2 ▸ tracks.climbs j before
      · obtain ⟨inside, parent, inner⟩ := mem_attached_iff.mp late
        rw [attaches.level j late (tracks.sizes.2.2 ▸ inside)]
        exact .link inner parent (tracks.climbs current next)
    attached := by
      intro j member
      rw [seen] at member
      rw [roots]
      rcases List.mem_append.mp member with before | late
      · exact (attaches.kept j (old before)).1 ▸ tracks.attached j before
      · obtain ⟨inside, parent, inner⟩ := mem_attached_iff.mp late
        rw [attaches.attached j late (tracks.sizes.2.1 ▸ inside), if_neg inner, parent]
    fresh := by
      intro j member
      rw [seen, List.mem_append, not_or] at member
      obtain ⟨attached, level⟩ := attaches.kept j member.2
      rw [attached, level]
      exact tracks.fresh j member.1
    above := by
      intro j member inner
      rw [roots] at inner
      rw [order]
      rw [seen] at member
      rcases List.mem_append.mp member with before | late
      · obtain ⟨a, done, up⟩ := tracks.above j before inner
        exact ⟨a, List.mem_append_left _ done, up⟩
      · exact ⟨current, by simp, (mem_attached_iff.mp late).2.1⟩
    below := by
      intro a done j parent
      rw [seen, List.mem_append]
      rw [order] at done
      rcases List.mem_append.mp done with before | last
      · exact Or.inl (tracks.below a before j parent)
      · rw [List.mem_singleton.mp last] at parent
        by_cases root : j ∈ p.roots
        · exact Or.inl (tracks.rooted j root)
        · exact Or.inr (mem_attached_iff.mpr ⟨Links.lt_count_of_parent? parent, parent, root⟩)
    ordered := by
      rw [seen, roots, List.pairwise_append]
      refine ⟨tracks.ordered, ?_, fun a before b late up => ?_⟩
      · refine List.pairwise_of_forall_mem_list fun a here b there up => ?_
        have parent := (mem_attached_iff.mp here).2.1
        obtain rfl := Option.some.inj (up.symm.trans parent)
        exact absurd next (new b there)
      · by_cases root : a ∈ p.roots
        · exact root
        · obtain ⟨c, done, up'⟩ := tracks.above a before root
          obtain rfl := Option.some.inj (up.symm.trans up')
          exact absurd (List.mem_append_left _ done) (new b late) }

theorem Tracks.exists_advance {rest : List Nat} (tracks : Tracks l p)
    (queue : p.queue = current :: rest) :
    ∃ q, Tracks l q ∧ q.roots = p.roots ∧ q.queue = rest ++ l.attached p.roots current ∧
      ∀ {ε : Type} (visit : Visit ε), p.advance visit l.children current rest =
        visitAll visit ((l.attached p.roots current).map fun j => (p.levelOf current + 1, j)) >>=
          fun _ => .ok q := by
  have next : current ∈ p.seen := mem_seen_of_queue queue
  have inside := tracks.inside current next
  have distinct : (l.children.getD current []).Nodup := by
    rw [getD_children inside]
    exact List.nodup_range.filter _
  obtain ⟨q, attaches, runs⟩ := exists_attaches
    (p := { p with order := p.order ++ [current], queue := rest }) distinct
    ((tracks.visited current inside).mpr next)
  have new := tracks.filter_children queue
  refine ⟨q, tracks.attaches queue (new ▸ attaches), attaches.roots, ?_, fun visit => ?_⟩
  · rw [attaches.queue, ← new]
    rfl
  · rw [← new]
    exact runs visit

theorem drain_of_queue_eq_nil (visit : Visit ε) (children : Array (List Nat))
    (empty : p.queue = []) : p.drain visit children = .ok p := by
  rw [drain]
  split
  · rfl
  · next queue => rw [empty] at queue; cases queue

theorem drain_of_queue_eq_cons (visit : Visit ε) (children : Array (List Nat)) {rest : List Nat}
    (queue : p.queue = current :: rest) :
    p.drain visit children = p.advance visit children current rest >>= drain visit children := by
  rw [drain]
  split
  · next empty => rw [queue] at empty; cases empty
  · next same =>
    obtain ⟨rfl, rfl⟩ := List.cons.inj (queue.symm.trans same)
    split
    · next e failed => rw [failed]; rfl
    · next q advanced => rw [advanced]; rfl

/-! ### One row -/

/-- The positions below those of a row, row by row, each with its level. -/
def breadth (l : Links) (roots : List Nat) : (depth : Nat) → (level : Nat) → List Nat →
    List (Nat × Nat)
  | 0, _, _ => []
  | depth + 1, level, row =>
    let next := row.flatMap (l.attached roots)
    next.map (fun j => (level + 1, j)) ++ breadth l roots depth (level + 1) next

/-- A row at the head of the queue gives way to the row below it, at the end. -/
theorem Tracks.exists_row (tracks : Tracks l p) {row rest : List Nat} {level : Nat}
    (queue : p.queue = row ++ rest) (same : ∀ i ∈ row, Climbs l p.roots i level) :
    ∃ q, Tracks l q ∧ q.roots = p.roots ∧
      q.queue = rest ++ row.flatMap (l.attached p.roots) ∧
      ∀ {ε : Type} (visit : Visit ε), p.drain visit l.children =
        visitAll visit ((row.flatMap (l.attached p.roots)).map fun j => (level + 1, j)) >>=
          fun _ => q.drain visit l.children := by
  induction row generalizing p rest with
  | nil =>
    refine ⟨p, tracks, rfl, ?_, fun visit => rfl⟩
    rw [queue]
    simp
  | cons current row ih =>
    rw [List.cons_append] at queue
    obtain ⟨q, tracks', roots, queue', advanced⟩ := tracks.exists_advance queue
    have climbs := tracks.climbs current (mem_seen_of_queue queue)
    have here := climbs.unique (same current List.mem_cons_self)
    rw [List.append_assoc] at queue'
    obtain ⟨r, tracks'', roots', queue'', drained⟩ := ih tracks' queue' fun i member =>
      roots ▸ same i (List.mem_cons_of_mem _ member)
    rw [roots] at roots' queue'' drained
    refine ⟨r, tracks'', roots', ?_, fun visit => ?_⟩
    · rw [queue'', List.flatMap_cons, List.append_assoc]
    · rw [drain_of_queue_eq_cons visit _ queue, advanced visit, here, List.flatMap_cons,
        List.map_append, visitAll_append]
      simp only [bind_assoc, ← drained visit]
      rfl

theorem Tracks.exists_drained (tracks : Tracks l p) {row : List Nat} {depth level : Nat}
    (queue : p.queue = row) (same : ∀ i ∈ row, Climbs l p.roots i level)
    (enough : l.count ≤ level + depth) :
    ∃ q, Tracks l q ∧ q.roots = p.roots ∧ q.queue = [] ∧
      ∀ {ε : Type} (visit : Visit ε), p.drain visit l.children =
        visitAll visit (breadth l p.roots depth level row) >>= fun _ => .ok q := by
  induction depth generalizing p row level with
  | zero =>
    -- Nobody climbs that far.
    have nobody : row = [] := List.eq_nil_iff_forall_not_mem.mpr fun i member => by
      have near := (same i member).lt_count tracks.lt_count_of_root
      omega
    rw [nobody] at queue
    exact ⟨p, tracks, rfl, queue, fun visit => drain_of_queue_eq_nil visit _ queue⟩
  | succ depth ih =>
    rw [← List.append_nil row] at queue
    obtain ⟨q, tracks', roots, queue', drained⟩ := tracks.exists_row queue same
    rw [List.nil_append] at queue'
    have next : ∀ j ∈ row.flatMap (l.attached p.roots), Climbs l q.roots j (level + 1) := by
      rw [roots]
      exact climbs_flatMap_attached same
    obtain ⟨r, tracks'', roots', empty, last⟩ := ih tracks' queue' next (by omega)
    rw [roots] at roots' last
    refine ⟨r, tracks'', roots', empty, fun visit => ?_⟩
    rw [drained visit, last visit, breadth, visitAll_append, bind_assoc]

/-! ### The roots -/

/-- When the queue is empty, whoever climbs to a root has been seen. -/
theorem Tracks.mem_seen_iff (tracks : Tracks l p) (empty : p.queue = []) :
    i ∈ p.seen ↔ ∃ k, Climbs l p.roots i k := by
  constructor
  · exact fun seen => ⟨_, tracks.climbs i seen⟩
  · rintro ⟨k, climbs⟩
    induction climbs with
    | root member => exact tracks.rooted _ member
    | link _ parent _ ih =>
      rw [seen, empty, List.append_nil] at ih
      exact tracks.below _ ih _ parent

/-- A new root does not stand in the way of those seen before. -/
theorem Tracks.climbs_concat (tracks : Tracks l p) {new j k : Nat} (fresh : new ∉ p.seen)
    (climbs : Climbs l p.roots j k) (seen : j ∈ p.seen) : Climbs l (p.roots ++ [new]) j k := by
  induction climbs with
  | root member => exact .root (List.mem_append_left _ member)
  | @link j a k inner parent _ ih =>
    have other : j ∉ p.roots ++ [new] := by
      rw [List.mem_append, List.mem_singleton]
      exact fun either => either.elim inner fun same => fresh (same ▸ seen)
    obtain ⟨b, done, up⟩ := tracks.above j seen inner
    obtain rfl := Option.some.inj (up.symm.trans parent)
    exact .link other parent (ih (List.mem_append_left _ done))

/-- So it does when it starts from another root. -/
theorem Tracks.started (tracks : Tracks l p) (empty : p.queue = []) (inside : i < l.count)
    (fresh : i ∉ p.seen) :
    Tracks l { p with
      visited := p.visited.setIfInBounds i true
      roots := p.roots ++ [i]
      queue := [i] } := by
  have before : p.seen = p.order := by rw [seen, empty, List.append_nil]
  have other {j : Nat} (member : j ∈ p.order) : j ≠ i := by
    rintro rfl
    exact fresh (before ▸ member)
  have visited (j : Nat) : (p.visited.setIfInBounds i true).getD j true = true ↔
      p.isVisited j = true ∨ j = i := by
    rw [getD_setIfInBounds, tracks.sizes.1]
    by_cases same : i = j
    · subst same
      simp [inside]
    · simp [same, Ne.symm same, isVisited]
  have none := tracks.fresh i fresh
  rw [before] at fresh
  exact {
    sizes := by
      simpa using tracks.sizes
    visited := by
      intro j within
      rw [isVisited, visited, tracks.visited j within, before]
      simp [seen]
    inside := by
      intro j member
      rcases List.mem_append.mp member with old | new
      · exact tracks.inside j (before ▸ old)
      · rwa [List.mem_singleton.mp new]
    distinct := by
      refine List.nodup_append.mpr ⟨before ▸ tracks.distinct, by simp, ?_⟩
      intro a old b new
      rw [List.mem_singleton.mp new]
      exact other old
    rooted := by
      intro j root
      refine (List.mem_append.mp root).elim (fun old => ?_) fun new => List.mem_append_right _ new
      exact List.mem_append_left _ (before ▸ tracks.rooted j old)
    climbs := by
      intro j member
      rcases List.mem_append.mp member with old | new
      · rw [← before] at fresh old
        exact tracks.climbs_concat fresh (tracks.climbs j old) old
      · have level : p.levelOf j = 0 := by rw [List.mem_singleton.mp new, none.2]
        show Climbs l (p.roots ++ [i]) j (p.levelOf j)
        rw [level]
        exact .root (List.mem_append_right _ new)
    attached := by
      intro j member
      show p.attachedTo? j = if j ∈ p.roots ++ [i] then Option.none else l.parent? j
      rcases List.mem_append.mp member with old | new
      · rw [tracks.attached j (before ▸ old)]
        simp [other old]
      · rw [List.mem_singleton.mp new, none.1, if_pos (by simp)]
    fresh := by
      intro j absent
      exact tracks.fresh j fun old => absent (List.mem_append_left _ (before ▸ old))
    above := by
      intro j member inner
      rcases List.mem_append.mp member with old | new
      · exact tracks.above j (before ▸ old) fun root => inner (List.mem_append_left _ root)
      · exact absurd (List.mem_append_right _ new) inner
    below := fun a done j parent => List.mem_append_left _ (before ▸ tracks.below a done j parent)
    ordered := by
      refine List.pairwise_append.mpr ⟨?_, List.pairwise_singleton _ _, fun a old b new up => ?_⟩
      · rw [← before]
        exact tracks.ordered.imp fun root up => List.mem_append_left _ (root up)
      · by_cases root : a ∈ p.roots
        · exact List.mem_append_left _ root
        · obtain ⟨c, done, up'⟩ := tracks.above a (before ▸ old) root
          obtain rfl := Option.some.inj (up.symm.trans up')
          exact absurd (List.mem_singleton.mp new) (other done) }

/-- The roots that are found from some starts on, after others. -/
inductive Picks (l : Links) : List Nat → List Nat → List Nat → Prop where
  | nil (roots : List Nat) : Picks l roots [] []
  | skip {roots starts more : List Nat} {i k : Nat} (climbs : Climbs l roots i k)
      (picks : Picks l roots starts more) : Picks l roots (i :: starts) more
  | pick {roots starts more : List Nat} {i : Nat} (loose : ∀ k, ¬ Climbs l roots i k)
      (picks : Picks l (roots ++ [i]) starts more) : Picks l roots (i :: starts) (i :: more)

/-- None of them climbs to the roots before. -/
theorem Picks.not_climbs {starts more : List Nat} (picks : Picks l roots starts more)
    (member : i ∈ more) : ∀ k, ¬ Climbs l roots i k := by
  induction picks with
  | nil => cases member
  | skip _ _ ih => exact ih member
  | @pick roots _ _ root loose _ ih =>
    rcases List.mem_cons.mp member with rfl | later
    · exact loose
    · intro k climbs
      obtain ⟨n, climbs⟩ := climbs.exists_of_subset (List.subset_append_left roots [root])
      exact ih later n climbs

/-- Roots that are found later take nothing away from what climbs to a root already. -/
theorem attached_eq_of_climbs {more : List Nat} {k : Nat}
    (loose : ∀ j ∈ more, ∀ k, ¬ Climbs l roots j k) (climbs : Climbs l roots i k) :
    l.attached (roots ++ more) i = l.attached roots i := by
  apply List.filter_congr
  intro j _
  by_cases parent : l.parent? j = some i
  · by_cases root : j ∈ roots
    · simp [root]
    · have later : j ∉ more := fun member => loose j member _ (.link root parent climbs)
      simp [root, later]
  · rw [beq_false_of_ne parent, Bool.false_and, Bool.false_and]

theorem breadth_eq_of_climbs {more row : List Nat} {depth level : Nat}
    (loose : ∀ j ∈ more, ∀ k, ¬ Climbs l roots j k) (climbs : ∀ i ∈ row, Climbs l roots i level) :
    breadth l (roots ++ more) depth level row = breadth l roots depth level row := by
  induction depth generalizing row level with
  | zero => rfl
  | succ depth ih =>
    have same : row.flatMap (l.attached (roots ++ more)) = row.flatMap (l.attached roots) :=
      List.flatMap_congr fun i member => attached_eq_of_climbs loose (climbs i member)
    rw [breadth, breadth, same, ih (climbs_flatMap_attached climbs)]

/-- From each start that has not been reached, all that is below it is visited. -/
theorem Tracks.exists_run (tracks : Tracks l p) (empty : p.queue = []) {starts : List Nat}
    (inside : ∀ i ∈ starts, i < l.count) :
    ∃ q more, Tracks l q ∧ q.queue = [] ∧ Picks l p.roots starts more ∧
      q.roots = p.roots ++ more ∧
      ∀ {ε : Type} (visit : Visit ε), starts.foldlM (start visit l.children) p =
        visitAll visit (more.flatMap fun i => breadth l q.roots l.count 0 [i]) >>=
          fun _ => .ok q := by
  induction starts generalizing p with
  | nil => exact ⟨p, [], tracks, empty, .nil _, (List.append_nil _).symm, fun visit => rfl⟩
  | cons i starts ih =>
    obtain ⟨here, rest⟩ := List.forall_mem_cons.mp inside
    cases known : p.isVisited i with
    | true =>
      obtain ⟨q, more, tracks', empty', picks, roots, runs⟩ := ih tracks empty rest
      have climbs := tracks.climbs i ((tracks.visited i here).mp known)
      refine ⟨q, more, tracks', empty', .skip climbs picks, roots, fun visit => ?_⟩
      rw [List.foldlM_cons, start, if_pos known]
      exact runs visit
    | false =>
      have fresh : i ∉ p.seen := fun seen => by
        rw [(tracks.visited i here).mpr seen] at known
        cases known
      obtain ⟨q, tracks', roots, empty', drained⟩ :=
        (tracks.started empty here fresh).exists_drained rfl
          (List.forall_mem_singleton.mpr (.root (List.mem_append_right _ List.mem_cons_self)))
          (Nat.le_add_left l.count 0)
      obtain ⟨r, more, tracks'', empty'', picks, roots', runs⟩ := ih tracks' empty' rest
      rw [roots] at picks roots'
      have loose : ∀ k, ¬ Climbs l p.roots i k := fun k climbs =>
        fresh ((tracks.mem_seen_iff empty).mpr ⟨k, climbs⟩)
      refine ⟨r, i :: more, tracks'', empty'', .pick loose picks, ?_, fun visit => ?_⟩
      · rw [roots', List.append_assoc, List.singleton_append]
      · have row : breadth l r.roots l.count 0 [i] = breadth l (p.roots ++ [i]) l.count 0 [i] := by
          rw [roots']
          exact breadth_eq_of_climbs (fun j member => picks.not_climbs member)
            (List.forall_mem_singleton.mpr (.root (List.mem_append_right _ List.mem_cons_self)))
        rw [List.foldlM_cons, start, if_neg (by simp [known]), drained visit, List.flatMap_cons,
          visitAll_append, row]
        simp only [bind_assoc, ← runs visit]
        rfl

end Pass

end CatalogueViewer.Assembly
