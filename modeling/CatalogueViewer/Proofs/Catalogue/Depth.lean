import CatalogueViewer.Proofs.Catalogue.Codec
import CatalogueViewer.Proofs.Json.Depth

/-!
# How deep a value of records nests

A record and the list of its children are two containers.  So a value from which records of some
height are read nests at least twice as deep: `Record.height_le_of_forestOfJson`.
-/

namespace CatalogueViewer

open Json (bind_eq_ok)

namespace Record

variable {d e : Draft} {r : Record}

theorem Draft.children_set {name : String} {v : Json} (taken : d.set name v = .ok e) :
    e.children = d.children := by
  unfold set at taken
  split at taken
  all_goals first
    | obtain ⟨x, -, taken⟩ := bind_eq_ok.mp taken
      cases taken
      rfl
    | cases taken
      rfl

theorem Draft.height_finish (finished : d.finish = .ok r) :
    r.height = Rose.forestHeight d.children + 1 := by
  unfold finish at finished
  split at finished
  · cases finished
  · cases finished
    rfl

mutual

/-- The lowest records need no list of children. -/
theorem height_le_of_ofJson : ∀ {v : Json} {r : Record},
    ofJson v = .ok r → 2 * r.height ≤ v.nesting + 1
  | .obj members, r, read => by
    obtain ⟨d, taken, finished⟩ := bind_eq_ok.mp read
    have below := height_le_of_ofMembers taken (Nat.zero_le _) (Nat.le_refl _)
    rw [Draft.height_finish finished, Json.nesting]
    omega
  | .arr [], r, read => nomatch read
  | .arr (item :: items), r, read => by
    obtain ⟨d, taken, finished⟩ := bind_eq_ok.mp read
    have below := height_le_of_ofItems taken (Nat.zero_le _) (Nat.le_refl _)
    split at finished
    · cases finished
    · rw [Draft.height_finish finished, Json.nesting]
      omega

theorem height_le_of_ofMembers : ∀ {members : List (String × Json)} {d e : Draft} {n : Nat},
    ofMembers d members = .ok e → 2 * Rose.forestHeight d.children ≤ n →
      Json.membersNesting members ≤ n → 2 * Rose.forestHeight e.children ≤ n
  | [], d, e, n, taken, before, _ => by
    cases taken
    exact before
  | (name, v) :: rest, d, e, n, taken, before, bound => by
    obtain ⟨first, later⟩ := Nat.max_le.mp bound
    rw [ofMembers] at taken
    split at taken
    · obtain ⟨children, inner, taken⟩ := bind_eq_ok.mp taken
      exact height_le_of_ofMembers taken (Nat.le_trans (height_le_of_childrenOf inner) first) later
    · obtain ⟨next, set, taken⟩ := bind_eq_ok.mp taken
      exact height_le_of_ofMembers taken (Draft.children_set set ▸ before) later

theorem height_le_of_ofItems : ∀ {items : List Json} {names : List String} {d e : Draft} {n : Nat},
    ofItems d names items = .ok e → 2 * Rose.forestHeight d.children ≤ n →
      Json.itemsNesting items ≤ n → 2 * Rose.forestHeight e.children ≤ n
  | _, [], d, e, n, taken, before, _ => by
    rw [ofItems] at taken
    cases taken
    exact before
  | [], _ :: _, d, e, n, taken, before, _ => by
    cases taken
    exact before
  | v :: rest, name :: names, d, e, n, taken, before, bound => by
    obtain ⟨first, later⟩ := Nat.max_le.mp bound
    rw [ofItems] at taken
    split at taken
    · obtain ⟨children, inner, taken⟩ := bind_eq_ok.mp taken
      exact height_le_of_ofItems taken (Nat.le_trans (height_le_of_childrenOf inner) first) later
    · obtain ⟨next, set, taken⟩ := bind_eq_ok.mp taken
      exact height_le_of_ofItems taken (Draft.children_set set ▸ before) later

theorem height_le_of_childrenOf : ∀ {v : Json} {children : List Record},
    childrenOf v = .ok children → 2 * Rose.forestHeight children ≤ v.nesting
  | .null, children, read => by
    cases read
    exact Nat.zero_le _
  | .arr items, children, read => height_le_of_ofList read

theorem height_le_of_ofList : ∀ {items : List Json} {records : List Record},
    ofList items = .ok records →
      2 * Rose.forestHeight records ≤ Json.itemsNesting items + 1
  | [], records, read => by
    cases read
    exact Nat.zero_le _
  | item :: items, records, read => by
    obtain ⟨first, here, read⟩ := bind_eq_ok.mp read
    obtain ⟨others, later, read⟩ := bind_eq_ok.mp read
    cases read
    have one := height_le_of_ofJson here
    have more := height_le_of_ofList later
    rw [Rose.forestHeight, Json.itemsNesting]
    omega

end

theorem height_le_of_forestOfJson {v : Json} {records : List Record}
    (read : forestOfJson v = .ok records) : 2 * Rose.forestHeight records ≤ v.nesting := by
  unfold forestOfJson at read
  split at read
  · exact height_le_of_ofList read
  · cases read

end Record

end CatalogueViewer
