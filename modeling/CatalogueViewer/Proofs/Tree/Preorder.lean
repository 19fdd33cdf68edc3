import CatalogueViewer.Tree.Rose

/-!
# The trees of a forest

The pre-order of a forest lists its trees and, with each tree, the trees below it.  `forestPlaced`
also tells the level at which each of them stands.
-/

namespace CatalogueViewer.Rose

variable {α : Type}

/-- Induction over a forest: below its first tree and over the others. -/
@[elab_as_elim]
theorem forestInduction {P : List (Rose α) → Prop} (forest : List (Rose α)) (nil : P [])
    (cons : ∀ t rest, P t.children → P rest → P (t :: rest)) : P forest := by
  match forest with
  | [] => exact nil
  | t :: rest =>
    exact cons t rest (forestInduction t.children nil cons) (forestInduction rest nil cons)
termination_by forestSize forest
decreasing_by
  · rw [forestSize, size_eq]
    omega
  · have positive := size_pos t
    rw [forestSize]
    omega

theorem mem_forestPreorder_of_mem {t : Rose α} {forest : List (Rose α)} (member : t ∈ forest) :
    t ∈ forestPreorder forest := by
  induction forest with
  | nil => cases member
  | cons u rest ih =>
    rw [forestPreorder, preorder_eq]
    rcases List.mem_cons.mp member with same | other
    · subst same
      exact List.mem_append_left _ List.mem_cons_self
    · exact List.mem_append_right _ (ih other)

theorem mem_preorder_cons {u t : Rose α} {rest : List (Rose α)} :
    u ∈ forestPreorder (t :: rest) ↔
      u = t ∨ u ∈ forestPreorder t.children ∨ u ∈ forestPreorder rest := by
  rw [forestPreorder, preorder_eq, List.mem_append, List.mem_cons, or_assoc]

theorem sublist_forestPreorder (forest : List (Rose α)) : forest.Sublist (forestPreorder forest) := by
  induction forest with
  | nil => exact .slnil
  | cons t rest ih =>
    rw [forestPreorder, preorder_eq, List.cons_append]
    exact .cons_cons t (ih.trans (List.sublist_append_right _ _))

/-- What holds of the trees of a forest, and with each tree of those right below it, holds of all
trees in the pre-order. -/
theorem forestPreorder_induction {P : Rose α → Prop} (forest : List (Rose α))
    (here : ∀ t ∈ forest, P t)
    (down : ∀ t ∈ forestPreorder forest, P t → ∀ c ∈ t.children, P c) :
    ∀ t ∈ forestPreorder forest, P t := by
  induction forest using forestInduction with
  | nil => exact fun t member => by cases member
  | cons t rest inside others =>
    have head : P t := here t List.mem_cons_self
    intro u member
    rcases mem_preorder_cons.mp member with same | below | after
    · exact same ▸ head
    · refine inside ?_ ?_ u below
      · exact down t (mem_preorder_cons.mpr (Or.inl rfl)) head
      · exact fun v member => down v (mem_preorder_cons.mpr (Or.inr (Or.inl member)))
    · refine others ?_ ?_ u after
      · exact fun v member => here v (List.mem_cons_of_mem _ member)
      · exact fun v member => down v (mem_preorder_cons.mpr (Or.inr (Or.inr member)))

theorem sublist_forestPreorder_of_mem {forest : List (Rose α)} {t : Rose α} (member : t ∈ forest) :
    (forestPreorder t.children).Sublist (forestPreorder forest) := by
  induction forest with
  | nil => cases member
  | cons u rest ih =>
    rw [forestPreorder, preorder_eq]
    rcases List.mem_cons.mp member with rfl | later
    · exact (List.sublist_append_left _ _).cons t
    · exact (ih later).trans (List.sublist_append_right _ _)

/-- What stands below a tree stands there in the order of the whole forest. -/
theorem forestPreorder_children_sublist (forest : List (Rose α)) : ∀ t ∈ forestPreorder forest,
    (forestPreorder t.children).Sublist (forestPreorder forest) :=
  forestPreorder_induction forest (fun _ => sublist_forestPreorder_of_mem)
    fun _ _ above _ child => (sublist_forestPreorder_of_mem child).trans above

theorem mem_forestPreorder_of_child {forest : List (Rose α)} {t c : Rose α}
    (member : t ∈ forestPreorder forest) (child : c ∈ t.children) : c ∈ forestPreorder forest := by
  induction forest using forestInduction with
  | nil => cases member
  | cons u rest inside others =>
    apply mem_preorder_cons.mpr
    rcases mem_preorder_cons.mp member with same | below | after
    · subst same
      exact Or.inr (Or.inl (mem_forestPreorder_of_mem child))
    · exact Or.inr (Or.inl (inside below))
    · exact Or.inr (Or.inr (others after))

/-- A tree in the pre-order is one of the forest or stands right below another. -/
theorem mem_or_child_of_mem_forestPreorder {forest : List (Rose α)} {t : Rose α}
    (member : t ∈ forestPreorder forest) :
    t ∈ forest ∨ ∃ u ∈ forestPreorder forest, t ∈ u.children :=
  forestPreorder_induction (P := fun t => t ∈ forest ∨ ∃ u ∈ forestPreorder forest, t ∈ u.children)
    forest (fun _ here => Or.inl here) (fun u inside _ _ child => Or.inr ⟨u, inside, child⟩)
    t member

theorem length_forestPreorder (forest : List (Rose α)) :
    (forestPreorder forest).length = forestSize forest := by
  induction forest using forestInduction with
  | nil => rfl
  | cons t rest inside others =>
    rw [forestPreorder, preorder_eq, List.length_append, List.length_cons, inside, others,
      forestSize, size_eq]

mutual

/-- The subtrees of a tree with their levels, each before those below it. -/
def placed (level : Nat) : Rose α → List (Nat × Rose α)
  | node value children => (level, node value children) :: forestPlaced (level + 1) children

def forestPlaced (level : Nat) : List (Rose α) → List (Nat × Rose α)
  | [] => []
  | t :: rest => t.placed level ++ forestPlaced level rest

end

theorem snd_forestPlaced (level : Nat) (forest : List (Rose α)) :
    (forestPlaced level forest).map Prod.snd = forestPreorder forest := by
  match forest with
  | [] => rfl
  | .node a children :: rest =>
    have inside := snd_forestPlaced (level + 1) children
    have after := snd_forestPlaced level rest
    simp only [forestPlaced, placed, forestPreorder, preorder, List.map_append, List.map_cons,
      inside, after]

theorem values_forestPlaced (level : Nat) (forest : List (Rose α)) :
    (forestPlaced level forest).map (fun place => (place.1, place.2.value)) =
      forestLeveled level forest := by
  match forest with
  | [] => rfl
  | .node a children :: rest =>
    have inside := values_forestPlaced (level + 1) children
    have after := values_forestPlaced level rest
    simp only [forestPlaced, placed, forestLeveled, leveled, List.map_append, List.map_cons,
      inside, after]
    rfl

theorem height_eq (t : Rose α) : t.height = forestHeight t.children + 1 := by
  cases t; rfl

theorem height_le_forestHeight {forest : List (Rose α)} {t : Rose α} (member : t ∈ forest) :
    t.height ≤ forestHeight forest := by
  induction forest with
  | nil => cases member
  | cons u rest ih =>
    rw [forestHeight]
    rcases List.mem_cons.mp member with same | other
    · subst same
      omega
    · have bound := ih other
      omega

theorem forestHeight_le_of_forall {forest : List (Rose α)} {n : Nat}
    (each : ∀ t ∈ forest, t.height ≤ n) : forestHeight forest ≤ n := by
  induction forest with
  | nil => exact Nat.zero_le n
  | cons t rest ih =>
    obtain ⟨first, others⟩ := List.forall_mem_cons.mp each
    exact Nat.max_le.mpr ⟨first, ih others⟩

theorem height_lt_of_child {t c : Rose α} (child : c ∈ t.children) : c.height < t.height := by
  have bound := height_le_forestHeight child
  rw [height_eq t]
  omega

theorem forestHeight_le_forestSize (forest : List (Rose α)) :
    forestHeight forest ≤ forestSize forest := by
  induction forest using forestInduction with
  | nil => exact Nat.le_refl 0
  | cons t rest inside others =>
    rw [forestHeight, forestSize, height_eq, size_eq]
    omega

end CatalogueViewer.Rose
