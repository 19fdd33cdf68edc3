import CatalogueViewer.Proofs.Tree.Limits
import Mathlib.Data.List.Forall2

/-!
# The builder as a recursion

The builder works through a stack of unfinished pages.  For any visitor it comes to the plain
recursion over the records: the visitor sees them in pre-order with their levels up to the first
that it refuses, and if it refuses none, each page is computed from its record and level, above the
pages of the record's children.
-/

namespace CatalogueViewer

/-- A page with the pages below it is built of the record at a place. -/
structure Pictures (place : Nat × Record) (t : PageTree) : Prop where
  page : t.value =
    { key := place.2.value.id
      title := place.2.value.displayName
      level := place.1
      content := place.2.value.content }
  leaf : t.isLeaf = place.2.isLeaf
  children : t.children = place.2.children.map (Rose.mapLeveled Page.ofEntry (place.1 + 1))

namespace Rose

variable {α β : Type}

theorem forestMapLeveled_eq_map (f : Nat → α → β) (level : Nat) (forest : List (Rose α)) :
    forestMapLeveled f level forest = forest.map (mapLeveled f level) := by
  induction forest with
  | nil => rfl
  | cons t rest ih => rw [forestMapLeveled, ih, List.map_cons]

theorem forestPreorder_forestMapLeveled (f : Nat → α → β) (level : Nat) (forest : List (Rose α)) :
    forestPreorder (forestMapLeveled f level forest) =
      (forestPlaced level forest).map fun place => place.2.mapLeveled f place.1 := by
  match forest with
  | [] => rfl
  | .node a children :: rest =>
    have inside := forestPreorder_forestMapLeveled f (level + 1) children
    have after := forestPreorder_forestMapLeveled f level rest
    simp only [forestMapLeveled, mapLeveled, forestPreorder, preorder, forestPlaced, placed,
      List.map_append, List.map_cons, inside, after]

end Rose

theorem pictures_mapLeveled (place : Nat × Record) :
    Pictures place (place.2.mapLeveled Page.ofEntry place.1) := by
  obtain ⟨level, ⟨e, children⟩⟩ := place
  refine ⟨rfl, ?_, Rose.forestMapLeveled_eq_map _ _ _⟩
  cases children with
  | nil => rfl
  | cons child rest => rfl

theorem forall₂_pictures (places : List (Nat × Record)) :
    List.Forall₂ Pictures places
      (places.map fun place => place.2.mapLeveled Page.ofEntry place.1) := by
  induction places with
  | nil => exact .nil
  | cons place rest ih => exact .cons (pictures_mapLeveled place) ih

/-- For any visitor the builder is the plain recursion.  The visitor is shown the records in
pre-order with their levels; the run fails exactly as it refuses the first of them, and otherwise
gives the pages computed from the records, level by level.  With the limits of a catalogue the
failure is the one of the first record that breaks a limit, of the depth before that of the ids. -/
theorem buildWith_recursion {σ ε : Type} (visit : Visitor σ ε) (state : σ) (maxDepth : Nat)
    (records : List Record) :
    let places := Rose.forestPlaced 0 records
    let tree := records.map (Rose.mapLeveled Page.ofEntry 0)
    places.map Prod.snd = Rose.forestPreorder records ∧
      List.Forall₂ Pictures places (Rose.forestPreorder tree) ∧
      buildWith visit state records = (Builder.visitAll visit state places).map (fun _ => tree) ∧
      (∀ failure, buildWith visit state records = .error failure ↔
        ∃ before place after s, places = before ++ place :: after ∧
          Builder.visitAll visit state before = .ok s ∧
          visit s place.1 place.2 = .error failure) ∧
      build records = tree ∧
      (∀ built, buildChecked maxDepth records = .ok built ↔
        Builder.WithinLimits maxDepth places ∧ built = tree) ∧
      ∀ failure, buildChecked maxDepth records = .error failure ↔
        ∃ before place after, places = before ++ place :: after ∧
          Builder.WithinLimits maxDepth before ∧ Builder.Offends maxDepth before place failure := by
  intro places tree
  have mapped : Rose.forestMapLeveled Page.ofEntry 0 records = tree :=
    Rose.forestMapLeveled_eq_map _ _ _
  have built_eq : build records = tree := (build_eq_map records).trans mapped
  refine ⟨Rose.snd_forestPlaced 0 records, ?_, ?_, ?_, built_eq, ?_, ?_⟩
  · rw [← mapped, Rose.forestPreorder_forestMapLeveled]
    exact forall₂_pictures places
  · rw [← mapped]
    exact buildWith_eq_map visit state records
  · intro failure
    rw [buildWith_eq_error_iff]
    exact Builder.visitAll_eq_error_iff
  · intro built
    constructor
    · intro passed
      have within := withinLimits_iff.mpr
        ((exists_buildChecked_ok_iff maxDepth records).mp ⟨built, passed⟩)
      exact ⟨within, (eq_build_of_buildChecked passed).trans built_eq⟩
    · rintro ⟨within, rfl⟩
      obtain ⟨built, passed⟩ := (exists_buildChecked_ok_iff maxDepth records).mpr
        (withinLimits_iff.mp within)
      rw [passed, eq_build_of_buildChecked passed, built_eq]
  · intro failure
    exact buildWith_eq_error_iff.trans Builder.visitAll_checkRecord_eq_error_iff

end CatalogueViewer
