import CatalogueViewer.Proofs.Tree.Preorder
import CatalogueViewer.Tree.Walk

/-!
# What a walk meets

A walk meets the trees of its frames in pre-order, each with what it enters below it, whatever the
frames are: `Walk.toList_eq`.  Call by call, a walk through all trees of a forest meets the tree at
each place of the forest once, in ascending order of the places.
-/

namespace CatalogueViewer

namespace Rose

variable {α : Type}

mutual

/-- The tree and, if it is entered, what is entered below it, in pre-order. -/
def entered (enters : Rose α → Bool) : Rose α → List (Rose α)
  | node value children =>
    node value children ::
      if enters (node value children) then forestEntered enters children else []

def forestEntered (enters : Rose α → Bool) : List (Rose α) → List (Rose α)
  | [] => []
  | t :: rest => t.entered enters ++ forestEntered enters rest

end

variable {enters more : Rose α → Bool}

theorem forestEntered_cons (t : Rose α) (rest : List (Rose α)) :
    forestEntered enters (t :: rest) =
      t :: ((if enters t then forestEntered enters t.children else []) ++
        forestEntered enters rest) := by
  cases t
  rfl

theorem forestEntered_of_all {forest : List (Rose α)}
    (all : ∀ t ∈ forestPreorder forest, enters t = false → t.children = []) :
    forestEntered enters forest = forestPreorder forest := by
  induction forest using forestInduction with
  | nil => rfl
  | cons t rest inside after =>
    replace inside := inside fun u member => all u (mem_preorder_cons.mpr (.inr (.inl member)))
    replace after := after fun u member => all u (mem_preorder_cons.mpr (.inr (.inr member)))
    have here := all t (mem_preorder_cons.mpr (.inl rfl))
    rw [forestEntered_cons, forestPreorder, preorder_eq, List.cons_append, after]
    cases entry : enters t with
    | true => rw [if_pos rfl, inside]
    | false =>
      rw [if_neg Bool.false_ne_true, here entry]
      rfl

/-! ### Places -/

/-- The tree at a place of a forest: the first number counts the roots, each later one the trees
right below the tree found so far. -/
def subtree? : List Nat → List (Rose α) → Option (Rose α)
  | [], _ => none
  | [i], forest => forest[i]?
  | i :: j :: place, forest => forest[i]?.bind fun t => subtree? (j :: place) t.children

mutual

/-- The places of a tree that is root number `i`. -/
def placesOf (i : Nat) : Rose α → List (List Nat)
  | node _ children => [i] :: (places 0 children).map (i :: ·)

/-- The places of a forest whose first tree is root number `i`, in pre-order. -/
def places (i : Nat) : List (Rose α) → List (List Nat)
  | [] => []
  | t :: rest => placesOf i t ++ places (i + 1) rest

end

theorem places_cons (i : Nat) (t : Rose α) (rest : List (Rose α)) :
    places i (t :: rest) = [i] :: ((places 0 t.children).map (i :: ·) ++ places (i + 1) rest) := by
  cases t
  rfl

theorem exists_of_mem_places {i : Nat} {forest : List (Rose α)} {place : List Nat}
    (member : place ∈ places i forest) : ∃ j later, i ≤ j ∧ place = j :: later := by
  induction forest generalizing i with
  | nil => cases member
  | cons t rest ih =>
    rw [places_cons] at member
    rcases List.mem_cons.mp member with rfl | later
    · exact ⟨i, [], Nat.le_refl i, rfl⟩
    · rcases List.mem_append.mp later with inside | after
      · obtain ⟨below, -, rfl⟩ := List.mem_map.mp inside
        exact ⟨i, below, Nat.le_refl i, rfl⟩
      · obtain ⟨j, below, bound, rfl⟩ := ih after
        exact ⟨j, below, Nat.le_of_succ_le bound, rfl⟩

/-- Place by place, a forest has the trees of its pre-order. -/
theorem map_subtree?_places (before forest : List (Rose α)) :
    (places before.length forest).map (subtree? · (before ++ forest)) =
      (forestPreorder forest).map some := by
  induction forest using forestInduction generalizing before with
  | nil => rfl
  | cons t rest inside after =>
    have here : (before ++ t :: rest)[before.length]? = some t := by simp
    have below : (places 0 t.children).map (fun place =>
        subtree? (before.length :: place) (before ++ t :: rest)) =
        (forestPreorder t.children).map some := by
      rw [← inside []]
      apply List.map_congr_left
      intro place member
      obtain ⟨j, later, -, rfl⟩ := exists_of_mem_places member
      rw [subtree?, here]
      rfl
    have onward := after (before ++ [t])
    rw [List.length_append, List.length_singleton, List.append_assoc, List.singleton_append] at onward
    rw [places_cons, forestPreorder, preorder_eq, List.map_cons, List.map_append, List.map_map,
      List.cons_append, List.map_cons, List.map_append]
    rw [Function.comp_def, below, onward]
    exact congrArg (· :: _) here

theorem mem_places_of_subtree? {i j : Nat} {later : List Nat} {forest : List (Rose α)}
    (found : (subtree? (j :: later) forest).isSome = true) :
    (i + j) :: later ∈ places i forest := by
  induction forest using forestInduction generalizing i j later with
  | nil => cases later <;> cases found
  | cons t rest inside after =>
    rw [places_cons]
    cases j with
    | zero =>
      cases later with
      | nil => exact List.mem_cons_self
      | cons k later =>
        have below : (0 + k) :: later ∈ places 0 t.children := inside found
        rw [Nat.zero_add] at below
        exact List.mem_cons_of_mem _ (List.mem_append_left _ (List.mem_map_of_mem below))
    | succ j =>
      have onward : (i + 1 + j) :: later ∈ places (i + 1) rest :=
        after (by cases later <;> exact found)
      rw [Nat.succ_add_eq_add_succ] at onward
      exact List.mem_cons_of_mem _ (List.mem_append_right _ onward)

theorem mem_places_iff {forest : List (Rose α)} {place : List Nat} :
    place ∈ places 0 forest ↔ (subtree? place forest).isSome = true := by
  constructor
  · intro member
    have trees := map_subtree?_places [] forest
    have found : subtree? place forest ∈ (forestPreorder forest).map some :=
      trees ▸ List.mem_map_of_mem (f := (subtree? · forest)) member
    obtain ⟨t, -, same⟩ := List.mem_map.mp found
    rw [← same]
    rfl
  · intro found
    cases place with
    | nil => cases found
    | cons j later =>
      have member := mem_places_of_subtree? (i := 0) found
      rwa [Nat.zero_add] at member

/-- Places are in ascending order: first the tree, then what is below it, then the trees after
it. -/
theorem pairwise_places (i : Nat) (forest : List (Rose α)) :
    (places i forest).Pairwise (· < ·) := by
  induction forest using forestInduction generalizing i with
  | nil => exact List.Pairwise.nil
  | cons t rest inside after =>
    rw [places_cons, List.pairwise_cons, List.pairwise_append, List.pairwise_map]
    refine ⟨?_, ?_, after (i + 1), ?_⟩
    · intro place member
      rcases List.mem_append.mp member with below | later
      · obtain ⟨inner, position, rfl⟩ := List.mem_map.mp below
        obtain ⟨j, more, -, rfl⟩ := exists_of_mem_places position
        simp
      · obtain ⟨j, more, bound, rfl⟩ := exists_of_mem_places later
        exact List.Lex.rel bound
    · exact (inside 0).imp fun less => List.Lex.cons less
    · intro place below other later
      obtain ⟨inner, -, rfl⟩ := List.mem_map.mp below
      obtain ⟨j, more, bound, rfl⟩ := exists_of_mem_places later
      exact List.Lex.rel bound

end Rose

namespace Walk

variable {α : Type}

/-- All that a walk is still to meet. -/
def awaited (w : Walk α) : List (Rose α) := w.frames.flatMap (Rose.forestEntered w.enters)

theorem awaited_pull? (enters : Rose α → Bool) (frames : List (List (Rose α))) :
    frames.flatMap (Rose.forestEntered enters) =
      match pull? enters frames with
      | none => []
      | some (t, later) => t :: later.flatMap (Rose.forestEntered enters) := by
  induction frames with
  | nil => rfl
  | cons frame frames ih =>
    cases frame with
    | nil => exact ih
    | cons t rest =>
      rw [List.flatMap_cons, Rose.forestEntered_cons, pull?]
      cases entry : enters t <;> simp

theorem awaited_eq (w : Walk α) :
    w.awaited = match w.next? with
      | none => []
      | some (t, v) => t :: v.awaited := by
  have frames := awaited_pull? w.enters w.frames
  rw [awaited, frames, next?]
  cases pull? w.enters w.frames <;> rfl

theorem toList_eq (w : Walk α) : w.toList = w.awaited := by
  rw [toList, awaited_eq]
  split
  · next none => rw [none]
  · next t v next =>
    rw [next]
    exact congrArg (t :: ·) (toList_eq v)
termination_by w.remaining
decreasing_by exact remaining_next (by assumption)

theorem find?_eq (p : Rose α → Bool) (w : Walk α) : w.find? p = w.awaited.find? p := by
  rw [find?, awaited_eq]
  split
  · next none => rw [none, List.find?_nil]
  · next t v next =>
    rw [next, List.find?_cons, find?_eq p v]
    cases p t <;> rfl
termination_by w.remaining
decreasing_by exact remaining_next (by assumption)

/-- The answer to call number `n`, counted from 0. -/
def call? (w : Walk α) : Nat → Option (Rose α)
  | 0 => w.next?.map Prod.fst
  | n + 1 => w.next?.bind fun (_, v) => v.call? n

theorem call?_eq (w : Walk α) (n : Nat) : w.call? n = w.awaited[n]? := by
  induction n generalizing w with
  | zero =>
    rw [awaited_eq, call?]
    cases w.next? <;> rfl
  | succ n ih =>
    rw [awaited_eq, call?]
    cases w.next? with
    | none => rfl
    | some met => exact ih met.2

theorem awaited_ofForest (forest : List (Rose α)) :
    (ofForest forest).awaited = Rose.forestPreorder forest := by
  have all : Rose.forestEntered (fun t => !t.isLeaf) forest = Rose.forestPreorder forest :=
    Rose.forestEntered_of_all fun t _ leaf => by simpa [Rose.isLeaf] using leaf
  rw [awaited, ofForest, List.flatMap_singleton, all]

theorem find?_ofForest (p : Rose α → Bool) (forest : List (Rose α)) :
    (ofForest forest).find? p = (Rose.forestPreorder forest).find? p := by
  rw [find?_eq, awaited_ofForest]

theorem call?_ofForest (forest : List (Rose α)) (n : Nat) :
    (ofForest forest).call? n =
      (Rose.places 0 forest)[n]?.bind fun place => Rose.subtree? place forest := by
  have trees := congrArg (·[n]?) (Rose.map_subtree?_places [] forest)
  simp only [List.length_nil, List.nil_append, List.getElem?_map] at trees
  rw [call?_eq, awaited_ofForest]
  cases place : (Rose.places 0 forest)[n]? with
  | none =>
    rw [place] at trees
    exact Option.map_eq_none_iff.mp trees.symm
  | some place' =>
    rw [place] at trees
    obtain ⟨t, met, same⟩ := Option.map_eq_some_iff.mp trees.symm
    rw [met, same]
    rfl

theorem call?_ofForest_eq_none_iff (forest : List (Rose α)) (n : Nat) :
    (ofForest forest).call? n = none ↔ Rose.forestSize forest ≤ n := by
  rw [call?_eq, awaited_ofForest, List.getElem?_eq_none_iff, Rose.length_forestPreorder]

end Walk

end CatalogueViewer
