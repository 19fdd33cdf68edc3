import CatalogueViewer.Json.Reader

/-!
# Members of objects

Reading an object sorts its members.  A reader that takes each member into a draft by its name comes
to the same draft in any order: `foldlM_sorted`.
-/

namespace CatalogueViewer.Json

variable {α : Type}

/-- The members in the order of names; of two members of one name the later counts. -/
def sorted (members : List (String × α)) : List (String × α) :=
  members.foldl (fun done member => put member.1 member.2 done) []

theorem mem_of_mem_put {name : String} {value : α} {members : List (String × α)}
    {m : String × α} (member : m ∈ put name value members) : m = (name, value) ∨ m ∈ members := by
  induction members with
  | nil => exact .inl (List.mem_singleton.mp member)
  | cons first rest ih =>
    unfold put at member
    split at member
    · exact (List.mem_cons.mp member).imp_right (List.mem_cons_of_mem first)
    · split at member
      · exact List.mem_cons.mp member
      · rcases List.mem_cons.mp member with here | later
        · exact .inr (here ▸ List.mem_cons_self)
        · exact (ih later).imp_right (List.mem_cons_of_mem first)

theorem mem_names_put {name other : String} {value : α} {members : List (String × α)} :
    other ∈ (put name value members).map Prod.fst ↔
      other = name ∨ other ∈ members.map Prod.fst := by
  induction members with
  | nil => simp [put]
  | cons first rest ih =>
    unfold put
    split
    · next same => simp [same]
    · split
      · simp
      · simp [ih, or_left_comm]

theorem mem_of_mem_foldl_put {more done : List (String × α)} {m : String × α}
    (member : m ∈ more.foldl (fun done member => put member.1 member.2 done) done) :
    m ∈ done ∨ m ∈ more := by
  induction more generalizing done with
  | nil => exact .inl member
  | cons first rest ih =>
    rcases ih member with before | later
    · rcases mem_of_mem_put before with here | before
      · exact .inr (here ▸ List.mem_cons_self)
      · exact .inl before
    · exact .inr (List.mem_cons_of_mem first later)

theorem mem_names_foldl_put {more done : List (String × α)} {name : String} :
    name ∈ (more.foldl (fun done member => put member.1 member.2 done) done).map Prod.fst ↔
      name ∈ done.map Prod.fst ∨ name ∈ more.map Prod.fst := by
  induction more generalizing done with
  | nil => simp
  | cons first rest ih =>
    rw [List.foldl_cons, ih, mem_names_put, List.map_cons, List.mem_cons, or_assoc, or_left_comm]

theorem mem_of_mem_sorted {members : List (String × α)} {m : String × α}
    (member : m ∈ sorted members) : m ∈ members :=
  (mem_of_mem_foldl_put member).resolve_left List.not_mem_nil

theorem mem_names_sorted {members : List (String × α)} {name : String} :
    name ∈ (sorted members).map Prod.fst ↔ name ∈ members.map Prod.fst := by
  rw [sorted, mem_names_foldl_put]
  simp

/-! ### Reading in any order -/

variable {δ : Type} {take : δ → String × Json → Except DataError δ} {only : (String → Bool) → δ}
  {members : List (String × Json)}

/-- With `only has` the draft of the fields that `has` names, taking the member adds its field. -/
def Adds (take : δ → String × Json → Except DataError δ) (only : (String → Bool) → δ)
    (m : String × Json) : Prop :=
  ∀ has, take (only has) m = .ok (only fun name => has name || name == m.1)

theorem foldlM_only (adds : ∀ m ∈ members, Adds take only m) (has : String → Bool) :
    members.foldlM take (only has) =
      .ok (only fun name => has name || (members.map Prod.fst).contains name) := by
  induction members generalizing has with
  | nil => simp [pure, Except.pure]
  | cons m rest ih =>
    obtain ⟨first, more⟩ := List.forall_mem_cons.mp adds
    rw [List.foldlM_cons, first has]
    simp only [bind, Except.bind, ih more, List.map_cons, List.contains_cons, Bool.or_assoc]

theorem foldlM_sorted (adds : ∀ m ∈ members, Adds take only m) :
    (sorted members).foldlM take (only fun _ => false) =
      .ok (only fun name => (members.map Prod.fst).contains name) := by
  rw [foldlM_only fun m member => adds m (mem_of_mem_sorted member)]
  have names : (fun name => ((sorted members).map Prod.fst).contains name) =
      fun name => (members.map Prod.fst).contains name := by
    funext name
    rw [Bool.eq_iff_iff, List.contains_iff_mem, List.contains_iff_mem]
    exact mem_names_sorted
  simp only [Bool.false_or, names]

end CatalogueViewer.Json
