import CatalogueViewer.Proofs.Json.Objects
import CatalogueViewer.Source.Payload

/-!
# Envelopes

The members of an envelope are read before its code is looked at.  So an answer that rejects the
request is reported as rejected only if its data can be read: `rejecting_answer`.  An answer that
succeeds is read as its data alone would be: `successful_answer`.
-/

namespace CatalogueViewer

open Json (DataError bind_eq_ok)

namespace Envelope

variable {α : Type} {read : Json → Except DataError α} {members : List (String × Json)}
  {code : Int} {message : String} {v : Json}

/-- The message of an answer with these members, if it is a text or absent. -/
def message? (members : List (String × Json)) : Option String :=
  match Json.get? "msg" members with
  | none => some ""
  | some (.str text) => some text
  | some _ => none

/-- The data of an answer with these members. -/
def dataOf (read : Json → Except DataError α) (members : List (String × Json)) :
    Except DataError (Option α) :=
  match Json.get? "data" members with
  | none => .ok none
  | some v => v.toOption read

theorem ofMembers_eq_map (hasCode : Json.get? "code" members = some (.int code))
    (word : Json.IntRange.signedWord.contains code = true)
    (known : message? members = some message) :
    ofMembers read members = (dataOf read members).map fun data => ⟨code, message, data⟩ := by
  have number : (Json.int code).toInt .signedWord = .ok code := if_pos word
  have said (data : Option α) : (do
      let text ← match Json.get? "msg" members with
        | none => .ok ""
        | some v => v.toText
      .ok ⟨code, text, data⟩ : Except DataError (Envelope α)) = .ok ⟨code, message, data⟩ := by
    unfold message? at known
    split at known
    · next absent =>
      rw [absent]
      cases known
      rfl
    · next text found =>
      rw [found]
      cases known
      rfl
    · cases known
  rw [ofMembers, hasCode]
  dsimp only
  rw [number]
  unfold dataOf
  cases Json.get? "data" members with
  | none => exact said none
  | some v =>
    dsimp only
    cases v.toOption read with
    | error fault => rfl
    | ok data => exact said data

theorem dataOf_of_ofMembers {e : Envelope α} (made : ofMembers read members = .ok e) :
    dataOf read members = .ok e.data := by
  unfold ofMembers at made
  dsimp only at made
  split at made
  · cases made
  · obtain ⟨code, -, made⟩ := bind_eq_ok.mp made
    split at made
    all_goals
      obtain ⟨data, got, made⟩ := bind_eq_ok.mp made
      split at made
      all_goals
        obtain ⟨message, -, made⟩ := bind_eq_ok.mp made
        cases made
        rw [dataOf, ‹Json.get? "data" members = _›]
        exact got

/-- What the data is found to be comes before what the code says. -/
theorem payloadOfJson_answer (hasCode : Json.get? "code" members = some (.int code))
    (word : Json.IntRange.signedWord.contains code = true)
    (known : message? members = some message) (path : String) :
    payloadOfJson read path (.obj members) =
      match dataOf read members with
      | .error fault => .error (.invalid path (.data fault))
      | .ok data => (⟨code, message, data⟩ : Envelope α).payload path := by
  have wrapped : (Json.get? "code" members).isSome = true := by rw [hasCode]; rfl
  simp only [payloadOfJson, wrapped, if_true, ofMembers_eq_map hasCode word known]
  cases dataOf read members <;> rfl

/-! ### Answers that reject the request -/

theorem payloadOfText_rejecting {path text : String}
    (object : Json.read text.toList = .ok (.obj members))
    (hasCode : Json.get? "code" members = some (.int code))
    (word : Json.IntRange.signedWord.contains code = true) (rejects : code ≠ successCode)
    (known : message? members = some message) :
    (payloadOfText read path text = .error (.rejected code message) ↔
      ∃ data, dataOf read members = .ok data) ∧
    ∀ fault, dataOf read members = .error fault →
      payloadOfText read path text = .error (.invalid path (.data fault)) := by
  simp only [payloadOfText, object, payloadOfJson_answer hasCode word known path]
  cases dataOf read members with
  | error fault =>
    refine ⟨⟨fun same => ?_, fun ⟨_, impossible⟩ => nomatch impossible⟩, ?_⟩
    · cases same
    · rintro _ ⟨rfl⟩
      rfl
  | ok data =>
    refine ⟨⟨fun _ => ⟨data, rfl⟩, fun _ => ?_⟩, fun _ impossible => nomatch impossible⟩
    simp only [payload, rejects, ne_eq, not_false_eq_true, if_true]

/-- An answer with another code than that of success is reported as rejected, with its code and its
message, exactly if its data is absent, null, or what was asked for; any other data hides both. -/
theorem rejecting_answer {path text : String}
    (object : Json.read text.toList = .ok (.obj members))
    (hasCode : Json.get? "code" members = some (.int code))
    (word : Json.IntRange.signedWord.contains code = true) (rejects : code ≠ successCode)
    (known : message? members = some message) :
    ((catalogueOfText path text = .error (.rejected code message) ↔
        ∃ data, dataOf Record.forestOfJson members = .ok data) ∧
      ∀ fault, dataOf Record.forestOfJson members = .error fault →
        catalogueOfText path text = .error (.invalid path (.data fault))) ∧
    (taskOfText path text = .error (.rejected code message) ↔
        ∃ data, dataOf Task.ofJson members = .ok data) ∧
      ∀ fault, dataOf Task.ofJson members = .error fault →
        taskOfText path text = .error (.invalid path (.data fault)) :=
  ⟨payloadOfText_rejecting object hasCode word rejects known,
    payloadOfText_rejecting object hasCode word rejects known⟩

/-- The answer to a request for a task that the service does not know. -/
def unknownTask : String := "\x7b\"code\":500,\"msg\":\"task not found\",\"data\":null\x7d"

theorem rejecting_answer_unknownTask :
    taskOfText "task.json" unknownTask = .error (.rejected 500 "task not found") := by
  have object : Json.read unknownTask.toList =
      .ok (.obj [("code", .int 500), ("data", .null), ("msg", .str "task not found")]) := rfl
  exact (rejecting_answer object rfl rfl (by decide) rfl).2.1.mpr ⟨none, rfl⟩

/-- An answer whose data is an empty object. -/
def emptyData : String :=
  "\x7b\"code\":404,\"msg\":\"task not found\",\"data\":\x7b\x7d\x7d"

/-- The message of the service is lost where a list of records was asked for. -/
theorem not_rejected_of_emptyData :
    ¬∀ (path text : String) (members : List (String × Json)) (code : Int) (message : String),
      Json.read text.toList = .ok (.obj members) → Json.get? "code" members = some (.int code) →
      Json.IntRange.signedWord.contains code = true → code ≠ successCode →
      message? members = some message →
      catalogueOfText path text = .error (.rejected code message) := by
  intro always
  have rejected := always "payload" emptyData
    [("code", .int 404), ("data", .obj []), ("msg", .str "task not found")] 404 "task not found"
    rfl rfl rfl (by decide) rfl
  have invalid : catalogueOfText "payload" emptyData =
      .error (.invalid "payload" (.data (.wrongType .table .list))) := rfl
  rw [invalid] at rejected
  cases rejected

/-! ### Answers that succeed -/

/-- The members of an answer that holds this data, with a message or without. -/
structure Wraps (members : List (String × Json)) (v : Json) : Prop where
  code : Json.get? "code" members = some (.int successCode)
  data : Json.get? "data" members = some v
  message : ∃ message, message? members = some message

/-- The value stands for itself: it is neither absent nor an answer. -/
structure Bare (v : Json) : Prop where
  present : v ≠ .null
  unwrapped : ∀ members, v = .obj members → Json.get? "code" members = none

theorem toOption_of_ne_null (present : v ≠ .null) : v.toOption read = (read v).map some := by
  cases v with
  | null => exact absurd rfl present
  | _ => rfl

theorem payloadOfJson_bare (bare : Bare v) (path : String) :
    payloadOfJson read path v = (read v).mapError fun fault => .invalid path (.data fault) := by
  cases v with
  | obj members =>
    have unwrapped : ¬(Json.get? "code" members).isSome = true := by
      simp [bare.unwrapped members rfl]
    exact if_neg unwrapped
  | _ => rfl

theorem payloadOfJson_wrapped (bare : Bare v) (wraps : Wraps members v) (path : String) :
    payloadOfJson read path (.obj members) = payloadOfJson read path v := by
  obtain ⟨message, known⟩ := wraps.message
  have data : dataOf read members = (read v).map some := by
    rw [dataOf, wraps.data]
    exact toOption_of_ne_null bare.present
  rw [payloadOfJson_answer wraps.code rfl known path, payloadOfJson_bare bare path, data]
  cases read v <;> rfl

theorem payloadOfText_wrapped {path text : String} {fields : List (String × String)}
    {values : List (String × Json)} (reads : Json.readWithin 126 text.toList = .ok v)
    (bare : Bare v) (each : List.Forall₂ (Json.SpellsMember 126) fields values)
    (wraps : Wraps (Json.sorted values) v) :
    payloadOfText read path (Json.objectText fields) = payloadOfText read path text ∧
      payloadOfText read path text =
        (read v).mapError fun fault => .invalid path (.data fault) := by
  have inner : Json.read text.toList = .ok v := Json.readWithin_deeper reads (by decide)
  have outer : Json.read (Json.objectText fields).toList = .ok (.obj (Json.sorted values)) :=
    Json.readWithin_objectText each
  simp only [payloadOfText, inner, outer]
  exact ⟨payloadOfJson_wrapped bare wraps path, payloadOfJson_bare bare path⟩

/-- Data in an answer that succeeds is read as it is read alone, and refused with the same fault,
whatever else the answer says. -/
theorem successful_answer {path text : String} {fields : List (String × String)}
    {values : List (String × Json)} (reads : Json.readWithin 126 text.toList = .ok v)
    (bare : Bare v) (each : List.Forall₂ (Json.SpellsMember 126) fields values)
    (wraps : Wraps (Json.sorted values) v) :
    (catalogueOfText path (Json.objectText fields) = catalogueOfText path text ∧
      catalogueOfText path text =
        (Record.forestOfJson v).mapError fun fault => .invalid path (.data fault)) ∧
    taskOfText path (Json.objectText fields) = taskOfText path text ∧
      taskOfText path text = (Task.ofJson v).mapError fun fault => .invalid path (.data fault) :=
  ⟨payloadOfText_wrapped reads bare each wraps, payloadOfText_wrapped reads bare each wraps⟩

/-- A list of one record without an id, after a message and with a member of no meaning. -/
theorem successful_answer_missingId :
    catalogueOfText "payload" (Json.objectText
        [("msg", " \"ok\""), ("code", "200"), ("data", "[\x7b\x7d]"), ("trace", "[1 , 2]")]) =
      catalogueOfText "payload" "[\x7b\x7d]" ∧
    catalogueOfText "payload" "[\x7b\x7d]" =
      .error (.invalid "payload" (.data (.missingField "catalogueId"))) := by
  have reads : Json.readWithin 126 "[\x7b\x7d]".toList = .ok (.arr [.obj []]) := rfl
  have each : List.Forall₂ (Json.SpellsMember 126)
      [("msg", " \"ok\""), ("code", "200"), ("data", "[\x7b\x7d]"), ("trace", "[1 , 2]")]
      [("msg", .str "ok"), ("code", .int 200), ("data", .arr [.obj []]),
        ("trace", .arr [.int 1, .int 2])] :=
    .cons ⟨rfl, rfl⟩ (.cons ⟨rfl, rfl⟩ (.cons ⟨rfl, rfl⟩ (.cons ⟨rfl, rfl⟩ .nil)))
  exact (successful_answer reads ⟨nofun, nofun⟩ each ⟨rfl, rfl, "ok", rfl⟩).1

end Envelope

end CatalogueViewer
