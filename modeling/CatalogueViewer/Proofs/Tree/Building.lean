import CatalogueViewer.Proofs.Tree.Preorder
import CatalogueViewer.Tree.Build

/-!
# Building without recursion

The builder keeps its unfinished pages on a stack.  What it builds is the image of the forest, each
page computed from its entry and level, provided that the visitor lets all records pass in
pre-order: `buildWith_eq_map`.
-/

namespace CatalogueViewer

namespace Builder

variable {σ ε : Type}

/-- Shows places to a visitor, one after the other. -/
def visitAll (visit : Visitor σ ε) (state : σ) (places : List (Nat × Record)) : Except ε σ :=
  places.foldlM (fun s place => visit s place.1 place.2) state

theorem visitAll_cons (visit : Visitor σ ε) (state : σ) (place : Nat × Record)
    (rest : List (Nat × Record)) :
    visitAll visit state (place :: rest) =
      visit state place.1 place.2 >>= fun s => visitAll visit s rest := rfl

theorem visitAll_append (visit : Visitor σ ε) (state : σ) (xs ys : List (Nat × Record)) :
    visitAll visit state (xs ++ ys) =
      visitAll visit state xs >>= fun s => visitAll visit s ys := by
  simp [visitAll]

/-- The visitor stops at the first place that it does not let pass, and sees none behind it. -/
theorem visitAll_eq_error_iff {visit : Visitor σ ε} {state : σ} {places : List (Nat × Record)}
    {failure : ε} :
    visitAll visit state places = .error failure ↔
      ∃ before place after s, places = before ++ place :: after ∧
        visitAll visit state before = .ok s ∧ visit s place.1 place.2 = .error failure := by
  constructor
  · intro failed
    induction places generalizing state with
    | nil => cases failed
    | cons place rest ih =>
      rw [visitAll_cons] at failed
      cases first : visit state place.1 place.2 with
      | error e =>
        rw [first] at failed
        cases failed
        exact ⟨[], place, rest, state, rfl, rfl, first⟩
      | ok s =>
        rw [first] at failed
        obtain ⟨before, stop, after, t, rfl, passed, stopped⟩ := ih failed
        refine ⟨place :: before, stop, after, t, rfl, ?_, stopped⟩
        rw [visitAll_cons, first]
        exact passed
  · rintro ⟨before, place, after, s, rfl, passed, stopped⟩
    rw [visitAll_append, passed]
    simp only [bind, Except.bind]
    rw [visitAll_cons, stopped]
    rfl

/-- The builder shows what waits at its level to the visitor and puts its pages on top of those
that are done. -/
theorem run_eq_bind (visit : Visitor σ ε) (state : σ) (waiting : List Record)
    (done : List PageTree) (stack : List Frame) :
    run visit state waiting done stack =
      visitAll visit state (Rose.forestPlaced stack.length waiting) >>= fun s =>
        run visit s []
          ((Rose.forestMapLeveled Page.ofEntry stack.length waiting).reverse ++ done) stack := by
  match waiting with
  | [] => rfl
  | .node e children :: rest =>
    have split : Rose.forestPlaced stack.length (.node e children :: rest) =
        [(stack.length, .node e children)] ++ Rose.forestPlaced (stack.length + 1) children ++
          Rose.forestPlaced stack.length rest := rfl
    rw [run, split, visitAll_append, visitAll_append]
    simp only [Rose.value, Rose.children]
    cases first : visit state stack.length (.node e children) with
    | error failure =>
      have one : visitAll visit state [(stack.length, .node e children)] = .error failure := by
        simp [visitAll, first]
      rw [one]
      rfl
    | ok s =>
      have one : visitAll visit state [(stack.length, .node e children)] = .ok s := by
        simp [visitAll, first]
      rw [one]
      dsimp only
      rw [run_eq_bind visit s children [] (⟨e, done, rest⟩ :: stack)]
      -- The frame of `e` is on top again once its children are done.
      cases inside : visitAll visit s (Rose.forestPlaced (stack.length + 1) children) with
      | error failure => simp [inside, bind, Except.bind]
      | ok s =>
        simp only [bind, Except.bind, List.length_cons, inside]
        rw [run]
        simp [run_eq_bind visit s rest, Rose.forestMapLeveled, Rose.mapLeveled, bind, Except.bind]
termination_by Rose.forestSize waiting
decreasing_by
  all_goals
    simp only [Rose.forestSize, Rose.size]
    omega

end Builder

open Builder in
theorem buildWith_eq_map {σ ε : Type} (visit : Visitor σ ε) (state : σ) (records : List Record) :
    buildWith visit state records =
      (visitAll visit state (Rose.forestPlaced 0 records)).map fun _ =>
        Rose.forestMapLeveled Page.ofEntry 0 records := by
  unfold buildWith
  rw [run_eq_bind]
  cases visitAll visit state (Rose.forestPlaced 0 records) with
  | error failure => rfl
  | ok s => simp [run, Except.map, bind, Except.bind]

theorem buildWith_eq_error_iff {σ ε : Type} {visit : Visitor σ ε} {state : σ}
    {records : List Record} {failure : ε} :
    buildWith visit state records = .error failure ↔
      Builder.visitAll visit state (Rose.forestPlaced 0 records) = .error failure := by
  rw [buildWith_eq_map]
  cases Builder.visitAll visit state (Rose.forestPlaced 0 records) with
  | ok s => simp [Except.map]
  | error first => simp [Except.map]

/-- A visitor that never fails lets all places pass. -/
theorem build_eq_map (records : List Record) :
    build records = Rose.forestMapLeveled Page.ofEntry 0 records := by
  have built := buildWith_eq_map (ε := Empty) (fun s _ _ => .ok s) () records
  unfold build
  rw [built]
  cases Builder.visitAll (ε := Empty) (fun s _ _ => .ok s) ()
      (Rose.forestPlaced 0 records) with
  | error impossible => cases impossible
  | ok s => rfl

end CatalogueViewer
