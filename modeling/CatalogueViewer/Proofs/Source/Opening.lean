import CatalogueViewer.Proofs.Catalogue.Depth
import CatalogueViewer.Proofs.Source.Envelopes
import CatalogueViewer.Proofs.Source.Payloads
import CatalogueViewer.Proofs.Tree.Flattening
import CatalogueViewer.Proofs.Tree.Limits

/-!
# Opening the text of a nested catalogue

Two limits meet in a nested catalogue: the configured depth, and the nesting of the text, in which
each level of records takes two containers.  The text is refused as malformed before the configured
depth is looked at, so no catalogue of more than 63 levels opens, whatever depth is configured:
`openText_nested`.  The same records listed flat do open.
-/

namespace CatalogueViewer

open Json (bind_eq_ok)
open Assembly
open Rose (forestHeight forestPreorder)

/-- Reads a catalogue, assembles it and builds its tree, within `maxDepth` levels. -/
def openText (maxDepth : Nat) (path text : String) : Except OpenError (List PageTree) := do
  let records ← (catalogueOfText path text).mapError .source
  (assembleChecked maxDepth records >>= buildChecked maxDepth).mapError .tree

/-- The records are nested already: no id stands twice, and none of the roots names another one as
its parent. -/
structure Nested (records : List Record) : Prop where
  distinct : (forestIds records).Nodup
  apart : ∀ r ∈ records, ∀ s ∈ records, r.value.parent = some s.value.id → r = s

variable {maxDepth : Nat} {path text : String} {v : Json} {records : List Record}

/-! ### Nested records are assembled already -/

theorem nodup_rootIds (distinct : (forestIds records).Nodup) :
    (records.map fun r => r.value.id).Nodup :=
  distinct.sublist ((Rose.sublist_forestPreorder records).map _)

theorem Nested.parent?_eq_none (nested : Nested records) (i : Nat) :
    (Links.ofRecords records).parent? i = none := by
  by_contra linked
  obtain ⟨p, parent⟩ := Option.ne_none_iff_exists'.mp linked
  obtain ⟨r, id, here, named, position, other⟩ := Links.parent?_ofRecords_eq_some_iff.mp parent
  obtain ⟨s, there, rfl, -⟩ := Links.position?_eq_some_iff.mp position
  have same := nested.apart r (List.mem_of_getElem? here) s (List.mem_of_getElem? there) named
  have inside : i < records.length := (List.getElem?_eq_some_iff.mp here).1
  have distinct : records.Nodup := (nodup_rootIds nested.distinct).of_map
  exact other ((List.getElem?_inj inside distinct).mp (here.trans (same ▸ there.symm))).symm

theorem Nested.assemble_eq (nested : Nested records) : assemble records = records := by
  rw [assemble_eq_nestAll, nestAll_of_unlinked nested.parent?_eq_none]

/-! ### Within the limits and beyond -/

theorem checked_eq_build (distinct : (forestIds (assemble records)).Nodup)
    (low : forestHeight (assemble records) ≤ maxDepth) :
    assembleChecked maxDepth records >>= buildChecked maxDepth = .ok (build (assemble records)) := by
  rcases assembleChecked_cases maxDepth records with passed | ⟨failure, -, deep, -⟩
  · obtain ⟨tree, built⟩ := (exists_buildChecked_ok_iff maxDepth _).mpr ⟨low, distinct⟩
    rw [passed, ← eq_build_of_buildChecked built]
    exact built
  · exact absurd low (Nat.not_le.mpr deep)

theorem depthExceeded_of_holds {failure : TreeError}
    (distinct : (forestIds (assemble records)).Nodup)
    (holds : failure.Holds maxDepth (assemble records)) :
    ∃ key depth, failure = .depthExceeded key depth maxDepth := by
  cases failure with
  | depthExceeded key depth limit =>
    obtain ⟨rfl, -⟩ := holds
    exact ⟨key, depth, rfl⟩
  | duplicateKey key =>
    have once := List.nodup_iff_count_le_one.mp distinct key
    exact absurd once (Nat.not_le.mpr holds)

theorem checked_eq_depthExceeded (distinct : (forestIds (assemble records)).Nodup)
    (deep : maxDepth < forestHeight (assemble records)) :
    ∃ key depth, assembleChecked maxDepth records >>= buildChecked maxDepth =
      .error (.depthExceeded key depth maxDepth) := by
  rcases assembleChecked_cases maxDepth records with passed | ⟨failure, failed, -, holds⟩
  · rw [passed]
    change ∃ key depth, buildChecked maxDepth (assemble records) = _
    cases built : buildChecked maxDepth (assemble records) with
    | ok tree =>
      have low := ((exists_buildChecked_ok_iff maxDepth _).mp ⟨tree, built⟩).1
      exact absurd low (Nat.not_le.mpr deep)
    | error failure =>
      obtain ⟨key, depth, rfl⟩ := depthExceeded_of_holds distinct (holds_of_buildChecked_error built)
      exact ⟨key, depth, rfl⟩
  · obtain ⟨key, depth, rfl⟩ := depthExceeded_of_holds distinct holds
    exact ⟨key, depth, by rw [failed]; rfl⟩

/-! ### What the text of a catalogue nests -/

theorem Json.nesting_le_of_get? {name : String} {members : List (String × Json)} {w : Json}
    (found : get? name members = some w) : w.nesting ≤ membersNesting members := by
  induction members with
  | nil => cases found
  | cons m rest ih =>
    rw [membersNesting]
    unfold get? at found
    split at found
    · cases found
      exact Nat.le_max_left _ _
    · exact Nat.le_trans (ih found) (Nat.le_max_right _ _)

theorem mapError_eq_ok {α ε δ : Type} {f : ε → δ} {x : Except ε α} {a : α}
    (mapped : x.mapError f = .ok a) : x = .ok a := by
  cases x with
  | ok b =>
    cases mapped
    rfl
  | error e => cases mapped

section Payloads

variable {α : Type} {read : Json → Except Json.DataError α} {members : List (String × Json)}
  {e : Envelope α} {data : α}

theorem read_of_toOption {w : Json} (got : w.toOption read = .ok (some data)) :
    read w = .ok data := by
  unfold Json.toOption at got
  split at got
  · cases got
  · cases inner : read w with
    | ok x =>
      rw [inner] at got
      cases got
      rfl
    | error fault =>
      rw [inner] at got
      cases got

theorem Envelope.exists_read_of_dataOf (got : dataOf read members = .ok (some data)) :
    ∃ w, Json.get? "data" members = some w ∧ read w = .ok data := by
  unfold dataOf at got
  split at got
  · cases got
  · next w found => exact ⟨w, found, read_of_toOption got⟩

theorem Envelope.data_of_payload (payload : e.payload path = .ok data) : e.data = some data := by
  unfold Envelope.payload at payload
  split at payload
  · cases payload
  · split at payload
    · cases payload
    · next x has =>
      cases payload
      exact has

/-- A payload is read from the value or from a part of it. -/
theorem exists_read_of_payloadOfJson (payload : payloadOfJson read path v = .ok data) :
    ∃ w, read w = .ok data ∧ w.nesting ≤ v.nesting := by
  unfold payloadOfJson at payload
  dsimp only at payload
  split at payload
  · next members =>
    split at payload
    · obtain ⟨e, made, payload⟩ := bind_eq_ok.mp payload
      have got := Envelope.dataOf_of_ofMembers (mapError_eq_ok made)
      rw [Envelope.data_of_payload payload] at got
      obtain ⟨w, found, inner⟩ := Envelope.exists_read_of_dataOf got
      exact ⟨w, inner, Nat.le_succ_of_le (Json.nesting_le_of_get? found)⟩
    · exact ⟨_, mapError_eq_ok payload, Nat.le_refl _⟩
  · exact ⟨v, mapError_eq_ok payload, Nat.le_refl _⟩

end Payloads

theorem height_le_of_payloadOfJson
    (payload : payloadOfJson Record.forestOfJson path v = .ok records) :
    2 * forestHeight records ≤ v.nesting := by
  obtain ⟨w, read, inner⟩ := exists_read_of_payloadOfJson payload
  exact Nat.le_trans (Record.height_le_of_forestOfJson read) inner

/-! ### Texts that open -/

theorem Json.spells_compact (plain : v.Plain) : Spells v.compact.toList v.stored := by
  refine ⟨v.nesting, readWithin_eq_ok_iff.mpr ⟨[], ?_, rfl⟩⟩
  have readsBack := plain.readsBack (Nat.le_refl _) endsNumeral_nil
  rwa [List.append_nil, ← String.toList_ofList (l := v.print)] at readsBack

theorem openText_of_read (read : catalogueOfText path text = .ok records) (maxDepth : Nat) :
    openText maxDepth path text =
      (assembleChecked maxDepth records >>= buildChecked maxDepth).mapError .tree := by
  rw [openText, read]
  rfl

theorem catalogueOfText_of_read (read : Json.read text.toList = .ok v)
    (payload : payloadOfJson Record.forestOfJson path v = .ok records) :
    catalogueOfText path text = .ok records := by
  rw [catalogueOfText, payloadOfText, read]
  exact payload

theorem payloadOfJson_forestToJson (path : String) (records : List Record) :
    payloadOfJson Record.forestOfJson path (Record.forestToJson records).stored = .ok records := by
  have read := Record.forestOfJson_stored records
  exact congrArg (Except.mapError _) read

/-- The written list of a catalogue is read exactly if it has at most 63 levels. -/
theorem read_forestToJson_iff (records : List Record) :
    Json.read (Record.forestToJson records).compact.toList =
        .ok (Record.forestToJson records).stored ↔ forestHeight records ≤ 63 := by
  constructor
  · intro read
    have bound := height_le_of_payloadOfJson (payloadOfJson_forestToJson "" records)
    have shallow : _ ≤ Json.maxNesting := Json.nesting_le_of_readWithin read
    rw [Json.maxNesting] at shallow
    omega
  · intro low
    apply Json.read_compact (Record.plain_forestToJson records)
    rw [Record.nesting_forestToJson, Json.maxNesting]
    omega

theorem openText_of_malformed (malformed : Json.read text.toList = .error .malformed) :
    openText maxDepth path text = .error (.source (.invalid path (.text .malformed))) := by
  rw [openText, catalogueOfText, payloadOfText, malformed]
  rfl

theorem openText_eq_build (read : catalogueOfText path text = .ok records)
    (nested : Nested records) (low : forestHeight records ≤ maxDepth) :
    openText maxDepth path text = .ok (build records) := by
  have assembled := nested.assemble_eq
  rw [openText_of_read read, checked_eq_build (assembled.symm ▸ nested.distinct)
    (assembled.symm ▸ low), assembled]
  rfl

theorem openText_eq_depthExceeded (read : catalogueOfText path text = .ok records)
    (nested : Nested records) (deep : maxDepth < forestHeight records) :
    ∃ key depth,
      openText maxDepth path text = .error (.tree (.depthExceeded key depth maxDepth)) := by
  have assembled := nested.assemble_eq
  obtain ⟨key, depth, failed⟩ := checked_eq_depthExceeded (assembled.symm ▸ nested.distinct)
    (assembled.symm ▸ deep)
  exact ⟨key, depth, by rw [openText_of_read read, failed]; rfl⟩

theorem exists_openText_forestToJson_iff (nested : Nested records) (maxDepth : Nat)
    (path : String) :
    (∃ tree, openText maxDepth path (Record.forestToJson records).compact = .ok tree) ↔
      forestHeight records ≤ maxDepth ∧ forestHeight records ≤ 63 := by
  have payload := payloadOfJson_forestToJson path records
  by_cases shallow : forestHeight records ≤ 63
  · have read := catalogueOfText_of_read ((read_forestToJson_iff records).mpr shallow) payload
    by_cases low : forestHeight records ≤ maxDepth
    · exact ⟨fun _ => ⟨low, shallow⟩, fun _ => ⟨_, openText_eq_build read nested low⟩⟩
    · obtain ⟨key, depth, failed⟩ := openText_eq_depthExceeded read nested (Nat.not_le.mp low)
      simp [failed, low]
  · have spells := Json.spells_compact (Record.plain_forestToJson records)
    have unread := mt (read_forestToJson_iff records).mp shallow
    simp [openText_of_malformed (spells.read.resolve_left unread), shallow]

/-- The text of a nested catalogue that nests too deep for the reader is refused as malformed.  Any
other has at most 63 levels, and opens exactly within the configured depth. -/
theorem openText_nested (spells : Json.Spells text.toList v)
    (payload : payloadOfJson Record.forestOfJson path v = .ok records) (nested : Nested records)
    (maxDepth : Nat) :
    (Json.read text.toList = .ok v → forestHeight records ≤ 63 ∧
      (forestHeight records ≤ maxDepth → openText maxDepth path text = .ok (build records)) ∧
      (maxDepth < forestHeight records → ∃ key depth,
        openText maxDepth path text = .error (.tree (.depthExceeded key depth maxDepth)))) ∧
    (Json.read text.toList ≠ .ok v →
      openText maxDepth path text = .error (.source (.invalid path (.text .malformed)))) ∧
    ((∃ tree, openText maxDepth path (Record.forestToJson records).compact = .ok tree) ↔
      forestHeight records ≤ maxDepth ∧ forestHeight records ≤ 63) := by
  refine ⟨fun within => ?_, fun unread => ?_, exists_openText_forestToJson_iff nested maxDepth path⟩
  · have read := catalogueOfText_of_read within payload
    have bound := height_le_of_payloadOfJson payload
    have shallow : v.nesting ≤ Json.maxNesting := Json.nesting_le_of_readWithin within
    rw [Json.maxNesting] at shallow
    exact ⟨by omega, openText_eq_build read nested, openText_eq_depthExceeded read nested⟩
  · exact openText_of_malformed (spells.read.resolve_left unread)

/-- Two levels with gaps in their text, under a limit of one. -/
theorem openText_nested_twoLevels : ∃ key depth, openText 1 "catalogue.json"
    "[\x7b\"catalogueId\": \"a\", \"children\": [ \x7b\"catalogueId\": 1\x7d ]\x7d]" =
      .error (.tree (.depthExceeded key depth 1)) := by
  have nested : Nested [.node { id := ⟨"a", by decide⟩ } [.node { id := ⟨"1", by decide⟩ } []]] :=
    { distinct := by decide
      apart := by simp }
  exact ((openText_nested (v := .arr [.obj [("catalogueId", .str "a"),
    ("children", .arr [.obj [("catalogueId", .int 1)]])]]) ⟨127, rfl⟩ rfl nested 1).1 rfl).2.2
    (by decide)

/-! ### The same records listed flat -/

theorem openText_flatten (distinct : (forestIds records).Nodup)
    (free : ∀ r ∈ records, r.value.parent = none) (low : forestHeight records ≤ maxDepth)
    (path : String) :
    openText maxDepth path (Record.forestToJson (flatten records)).compact =
      .ok (build records) := by
  have flat : Assembly.Flat (flatten records) (linkBelow records) :=
    { toLists := lists_flatten records
      toLinked := linked_linkBelow free
      distinct := by rw [ids_linkBelow]; exact distinct }
  have assembled := flat.assemble_eq
  have shallow : forestHeight (flatten records) ≤ 63 :=
    Nat.le_trans (forestHeight_flatten_le records) (by decide)
  have read := catalogueOfText_of_read ((read_forestToJson_iff _).mpr shallow)
    (payloadOfJson_forestToJson path (flatten records))
  have tree : build (linkBelow records) = build records := by
    rw [build_eq_map, build_eq_map]
    exact forestMapLeveled_linkBelow (fun _ _ _ => rfl) 0 records
  rw [openText_of_read read, checked_eq_build, assembled, tree]
  · rfl
  · rw [assembled]
    exact flat.distinct
  · rwa [assembled, forestHeight_linkBelow]

/-! ### A tower of records -/

/-- An id of `n + 1` letters. -/
def floorKey (n : Nat) : NodeKey where
  text := String.ofList (List.replicate (n + 1) 'f')
  visible := by
    rw [String.toList_ofList, List.replicate_succ]
    rfl

/-- One record on each of `n` levels. -/
def tower : Nat → List Record
  | 0 => []
  | n + 1 => [.node { id := floorKey n } (tower n)]

theorem forestHeight_tower (n : Nat) : forestHeight (tower n) = n := by
  induction n with
  | zero => rfl
  | succ n ih => simp [tower, forestHeight, Rose.height, ih]

theorem forestIds_tower_succ (n : Nat) :
    forestIds (tower (n + 1)) = floorKey n :: forestIds (tower n) := by
  simp [forestIds, tower, forestPreorder, Rose.preorder, Rose.value]

theorem floorKey_inj {m n : Nat} (same : floorKey m = floorKey n) : m = n := by
  have texts : List.replicate (m + 1) 'f' = List.replicate (n + 1) 'f' :=
    String.ofList_injective (congrArg Id.text same)
  have lengths := congrArg List.length texts
  rw [List.length_replicate, List.length_replicate] at lengths
  exact Nat.succ.inj lengths

theorem mem_forestIds_tower {n : Nat} {id : NodeKey} (member : id ∈ forestIds (tower n)) :
    ∃ m < n, id = floorKey m := by
  induction n with
  | zero => cases member
  | succ n ih =>
    rw [forestIds_tower_succ] at member
    rcases List.mem_cons.mp member with top | below
    · exact ⟨n, Nat.lt_succ_self n, top⟩
    · obtain ⟨m, low, same⟩ := ih below
      exact ⟨m, Nat.lt_succ_of_lt low, same⟩

theorem nodup_forestIds_tower (n : Nat) : (forestIds (tower n)).Nodup := by
  induction n with
  | zero => exact List.nodup_nil
  | succ n ih =>
    rw [forestIds_tower_succ, List.nodup_cons]
    refine ⟨fun member => ?_, ih⟩
    obtain ⟨m, low, same⟩ := mem_forestIds_tower member
    exact absurd (floorKey_inj same) (Nat.ne_of_gt low)

theorem free_tower (n : Nat) : ∀ r ∈ tower n, r.value.parent = none := by
  cases n with
  | zero => exact fun _ member => nomatch member
  | succ n =>
    intro r member
    rw [List.mem_singleton.mp member]
    rfl

theorem nested_tower (n : Nat) : Nested (tower n) where
  distinct := nodup_forestIds_tower n
  apart r member s _ named := by
    rw [free_tower n r member] at named
    cases named

/-- A tower of 64 levels does not open with 64 levels allowed, although it does when it is listed
flat. -/
theorem not_openText_tower :
    forestHeight (tower 64) = 64 ∧ Nested (tower 64) ∧
      openText 64 "catalogue.json" (Record.forestToJson (tower 64)).compact =
        .error (.source (.invalid "catalogue.json" (.text .malformed))) ∧
      openText 64 "catalogue.json" (Record.forestToJson (flatten (tower 64))).compact =
        .ok (build (tower 64)) := by
  have height := forestHeight_tower 64
  refine ⟨height, nested_tower 64, ?_, ?_⟩
  · have spells := Json.spells_compact (Record.plain_forestToJson (tower 64))
    have unread := mt (read_forestToJson_iff (tower 64)).mp (by omega)
    exact openText_of_malformed (spells.read.resolve_left unread)
  · exact openText_flatten (nodup_forestIds_tower 64) (free_tower 64) (Nat.le_of_eq height) _

end CatalogueViewer
