import CatalogueViewer.Catalogue.Reading
import CatalogueViewer.Catalogue.Writing
import CatalogueViewer.Proofs.Json.Members
import CatalogueViewer.Proofs.Json.RoundTrip

/-!
# Reading records back

What is written of a record or of a task, stored as JSON values are, is read as the same record or
task: `Record.forestOfJson_stored` and `Task.ofJson_stored`.
-/

namespace CatalogueViewer

namespace Json

/-- The members of an object. -/
def fields : Json → List (String × Json)
  | .obj members => members
  | _ => []

theorem stored_obj (members : List (String × Json)) :
    (Json.obj members).stored = .obj (sorted (members.map fun m => (m.1, m.2.stored))) := by
  rw [stored, storedMembers_eq_map]
  rfl

theorem foldlM_stored {δ : Type} {take : δ → String × Json → Except DataError δ}
    {only : (String → Bool) → δ} {members : List (String × Json)}
    (adds : ∀ m ∈ members, Adds take only (m.1, m.2.stored)) :
    (sorted (members.map fun m => (m.1, m.2.stored))).foldlM take (only fun _ => false) =
      .ok (only fun name => (members.map Prod.fst).contains name) := by
  have sameNames : (members.map fun m => (m.1, m.2.stored)).map Prod.fst =
      members.map Prod.fst := by simp
  rw [foldlM_sorted (List.forall_mem_map.mpr adds), sameNames]

theorem contains_member? (name other : String) (value : Option Json) :
    ((member? name value).map Prod.fst).contains other = (value.isSome && other == name) := by
  cases value with
  | none => rfl
  | some v => simp only [member?, Option.map_some, Option.toList_some, List.map_cons, List.map_nil,
      List.contains_cons, List.contains_nil, Bool.or_false, Option.isSome_some, Bool.true_and]

theorem forall_mem_member? {α : Type} {P : String × Json → Prop} {name : String} {write : α → Json}
    {value : Option α} : (∀ m ∈ member? name (value.map write), P m) ↔
      ∀ v, value = some v → P (name, write v) := by
  cases value <;> simp [member?]

end Json

open Json (DataError)

theorem ite_isSome {α : Type} (value : Option α) :
    (if value.isSome then value else none) = value := by
  cases value <;> rfl

theorem Json.toOption_str (text : String) :
    (Json.str text).stored.toOption toText = .ok (some text) := rfl

theorem Id.ofJson?_str {k : IdKind} (id : Id k) :
    Id.ofJson? (Json.str id.text).stored = .ok (some id) :=
  congrArg Except.ok (Id.ofText?_text id)

theorem Status.toOption_toJson (s : Status) :
    s.toJson.stored.toOption Status.ofJson = .ok (some s) := by
  cases s <;> rfl

namespace Task

/-- The draft of those fields of a task that `has` names. -/
def Draft.only (t : Task) (has : String → Bool) : Draft where
  id := if has "taskId" then some t.id else none
  projectName := if has "projectName" then t.projectName else ""
  projectUrl := if has "projectUrl" then t.projectUrl else none
  userName := if has "userName" then t.userName else none
  status := if has "status" then t.status else none
  failReason := if has "failReason" then t.failReason else none
  createTime := if has "createTime" then t.createTime else none
  updateTime := if has "updateTime" then t.updateTime else none

theorem adds_fields (t : Task) : ∀ m ∈ t.toJson.fields,
    Json.Adds (fun d m => Draft.set d m.1 m.2) (Draft.only t) (m.1, m.2.stored) := by
  simp only [toJson, Json.fields, List.forall_mem_append, List.forall_mem_cons,
    Json.forall_mem_member?, Json.Adds, List.append_assoc, List.cons_append]
  refine ⟨?id, ?name, ?_, ?_, ?_, ?_, ?_, ?_⟩
  case id =>
    intro has
    simp [Draft.only, Draft.set, Json.stored, Json.toText, Id.ofText, Id.ofText?_text, bind,
      Except.bind]
  case name =>
    intro has
    simp [Draft.only, Draft.set, Json.stored, Json.toText, bind, Except.bind]
  all_goals
    intro v known has
    simp [Draft.only, Draft.set, Json.toOption_str, Status.toOption_toJson, known, bind,
      Except.bind]

theorem finish_only (t : Task) :
    (Draft.only t fun name => (t.toJson.fields.map Prod.fst).contains name).finish = .ok t := by
  simp only [toJson, Json.fields, Draft.only, List.map_cons, List.map_append, List.cons_append,
    List.contains_cons, List.contains_append, Json.contains_member?, Option.isSome_map,
    String.reduceBEq]
  simp [Draft.finish, ite_isSome]

theorem ofJson_stored (t : Task) : Task.ofJson t.toJson.stored = .ok t := by
  have object : t.toJson = .obj t.toJson.fields := rfl
  have read := Json.foldlM_stored (adds_fields t)
  rw [object, Json.stored_obj, Task.ofJson, Draft.setAll]
  exact (congrArg (· >>= Draft.finish) read).trans (finish_only t)

end Task

namespace Record

/-- The draft of those fields of a record that `has` names. -/
def Draft.only (r : Record) (has : String → Bool) : Draft where
  id := if has "catalogueId" then some r.value.id else none
  parent := if has "parentCatalogueId" then r.value.parent else none
  name := if has "name" then r.value.name else ""
  title := if has "title" then r.value.title else none
  prompt := if has "prompt" then r.value.prompt else none
  dependentFile := if has "dependentFile" then r.value.dependentFile else none
  content := if has "content" then r.value.content else none
  status := if has "status" then r.value.status else none
  children := if has "children" then r.children else []

/-- Takes a member into a draft. -/
def Draft.take (d : Draft) (m : String × Json) : Except DataError Draft :=
  if m.1 = "children" then do .ok { d with children := ← childrenOf m.2 } else d.set m.1 m.2

theorem ofMembers_eq_foldlM (d : Draft) (members : List (String × Json)) :
    ofMembers d members = members.foldlM Draft.take d := by
  induction members generalizing d with
  | nil => rfl
  | cons m rest ih =>
    rw [ofMembers, List.foldlM_cons, Draft.take]
    simp only [ih]
    split
    · cases childrenOf m.2 <;> rfl
    · rfl

theorem toJson_eq_obj (r : Record) : r.toJson = .obj r.toJson.fields := by
  cases r
  rfl

theorem adds_fields {r : Record} (below : childrenOf (Json.arr (toJsonList r.children)).stored =
    .ok r.children) : ∀ m ∈ r.toJson.fields,
    Json.Adds Draft.take (Draft.only r) (m.1, m.2.stored) := by
  obtain ⟨e, children⟩ := r
  simp only [toJson, Json.fields, Entry.toMembers, List.forall_mem_append, List.forall_mem_cons,
    Json.forall_mem_member?, Json.Adds, List.append_assoc, List.cons_append]
  refine ⟨?id, ?_, ?name, ?_, ?_, ?_, ?_, ?_, ?children⟩
  case id =>
    intro has
    simp [Draft.take, Draft.only, Draft.set, Json.stored, Id.ofJson, Id.ofText, Id.ofText?_text,
      bind, Except.bind, Rose.value]
  case name =>
    intro has
    simp [Draft.take, Draft.only, Draft.set, Json.stored, Json.toText, bind, Except.bind,
      Rose.value]
  case children =>
    refine ⟨fun has => ?_, fun _ member => absurd member List.not_mem_nil⟩
    simp only [Rose.children] at below
    simp [Draft.take, Draft.only, below, bind, Except.bind, Rose.children, Rose.value]
  all_goals
    intro v known has
    simp [Draft.take, Draft.only, Draft.set, Id.ofJson?_str, Json.toOption_str,
      Status.toOption_toJson, known, bind, Except.bind, Rose.value]

theorem finish_only (r : Record) :
    (Draft.only r fun name => (r.toJson.fields.map Prod.fst).contains name).finish = .ok r := by
  obtain ⟨e, children⟩ := r
  simp only [toJson, Json.fields, Entry.toMembers, Draft.only, List.map_cons, List.map_append,
    List.map_nil, List.cons_append, List.contains_cons, List.contains_append, List.contains_nil,
    Json.contains_member?, Option.isSome_map, String.reduceBEq]
  simp [Draft.finish, ite_isSome, Rose.value, Rose.children]

theorem ofJson_stored_of_children {r : Record}
    (below : childrenOf (Json.arr (toJsonList r.children)).stored = .ok r.children) :
    ofJson r.toJson.stored = .ok r := by
  have read := Json.foldlM_stored (adds_fields below)
  rw [toJson_eq_obj, Json.stored_obj, ofJson, ofMembers_eq_foldlM]
  exact (congrArg (· >>= Draft.finish) read).trans (finish_only r)

mutual

theorem ofJson_stored : ∀ r : Record, ofJson r.toJson.stored = .ok r
  | .node _ children => ofJson_stored_of_children (ofList_stored children)

theorem ofList_stored : ∀ records : List Record,
    ofList (Json.storedItems (toJsonList records)) = .ok records
  | [] => rfl
  | r :: rest => by
    rw [toJsonList, Json.storedItems, ofList, ofJson_stored r, ofList_stored rest]
    rfl

end

theorem forestOfJson_stored (records : List Record) :
    forestOfJson (forestToJson records).stored = .ok records := ofList_stored records

end Record

/-! ### What is written -/

theorem Json.membersNesting_append (xs ys : List (String × Json)) :
    membersNesting (xs ++ ys) = max (membersNesting xs) (membersNesting ys) := by
  induction xs with
  | nil => simp [membersNesting]
  | cons m rest ih => simp only [List.cons_append, membersNesting, ih, Nat.max_assoc]

theorem Json.membersNesting_eq_zero {members : List (String × Json)}
    (flat : ∀ m ∈ members, m.2.nesting = 0) : membersNesting members = 0 := by
  induction members with
  | nil => rfl
  | cons m rest ih =>
    obtain ⟨first, more⟩ := List.forall_mem_cons.mp flat
    rw [membersNesting, first, ih more]
    rfl

theorem Status.plain_toJson (s : Status) : s.toJson.Plain := by
  cases s <;> exact .int (by decide) (by decide)

/-- A text or a status code. -/
def Json.IsFlat (v : Json) : Prop := v.Plain ∧ v.nesting = 0

theorem Json.isFlat_str (text : String) : (Json.str text).IsFlat := ⟨.str text, rfl⟩

theorem Status.isFlat_toJson (s : Status) : s.toJson.IsFlat := ⟨s.plain_toJson, rfl⟩

theorem Entry.isFlat_toMembers (e : Entry) : ∀ m ∈ e.toMembers, m.2.IsFlat := by
  simp only [toMembers, List.forall_mem_append, List.forall_mem_cons, Json.forall_mem_member?,
    List.append_assoc, List.cons_append, Json.isFlat_str, Status.isFlat_toJson, implies_true,
    and_true]

theorem Task.isFlat_fields (t : Task) : ∀ m ∈ t.toJson.fields, m.2.IsFlat := by
  simp only [toJson, Json.fields, List.forall_mem_append, List.forall_mem_cons,
    Json.forall_mem_member?, List.append_assoc, List.cons_append, Json.isFlat_str,
    Status.isFlat_toJson, implies_true, and_true]

theorem Task.plain_toJson (t : Task) : t.toJson.Plain :=
  .obj fun m member => (t.isFlat_fields m member).1

theorem Task.nesting_toJson (t : Task) : t.toJson.nesting = 1 := by
  have object : t.toJson = .obj t.toJson.fields := rfl
  have flat := Json.membersNesting_eq_zero fun m member => (t.isFlat_fields m member).2
  rw [object, Json.nesting, flat]

namespace Record

mutual

theorem plain_toJson : ∀ r : Record, r.toJson.Plain
  | .node e children => by
    refine .obj fun m member => ?_
    rcases List.mem_append.mp member with own | below
    · exact (e.isFlat_toMembers m own).1
    · rw [List.mem_singleton.mp below]
      exact .arr (plain_toJsonList children)

theorem plain_toJsonList : ∀ records : List Record, ∀ v ∈ toJsonList records, v.Plain
  | [] => fun _ member => absurd member List.not_mem_nil
  | r :: rest => List.forall_mem_cons.mpr ⟨plain_toJson r, plain_toJsonList rest⟩

end

mutual

/-- Each level of records takes an object and a list. -/
theorem nesting_toJson : ∀ r : Record, r.toJson.nesting = 2 * r.height
  | .node e children => by
    have flat := Json.membersNesting_eq_zero fun m member => (e.isFlat_toMembers m member).2
    have below := itemsNesting_toJsonList children
    rw [toJson, Json.nesting, Json.membersNesting_append, flat, Rose.height]
    simp only [Json.membersNesting, Json.nesting, below]
    omega

theorem itemsNesting_toJsonList : ∀ records : List Record,
    Json.itemsNesting (toJsonList records) = 2 * Rose.forestHeight records
  | [] => rfl
  | r :: rest => by
    rw [toJsonList, Json.itemsNesting, nesting_toJson r, itemsNesting_toJsonList rest,
      Rose.forestHeight]
    omega

end

theorem plain_forestToJson (records : List Record) : (forestToJson records).Plain :=
  .arr (plain_toJsonList records)

theorem nesting_forestToJson (records : List Record) :
    (forestToJson records).nesting = 2 * Rose.forestHeight records + 1 := by
  rw [forestToJson, Json.nesting, itemsNesting_toJsonList]

end Record

end CatalogueViewer
