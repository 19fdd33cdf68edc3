import CatalogueViewer.Proofs.Catalogue.Codec
import CatalogueViewer.Source.Payload

/-!
# Payloads there and back

A catalogue or a task in a successful answer is read from the text of the answer as it was, as long
as the answer keeps within the limit of nesting: `payloads_read_back`.
-/

namespace CatalogueViewer

open Json (DataError maxNesting)

namespace Envelope

variable {α : Type} {read : Json → Except DataError α} {write : α → Json} {data : α}

theorem stored_success (write : α → Json) (data : α) :
    (toJson write (success data)).stored =
      .obj [("code", .int successCode), ("data", (write data).stored), ("msg", .str "")] := by
  have codeFirst : ¬ "msg" < "code" := by decide
  have codeBeforeData : ¬ "data" < "code" := by decide
  have dataBeforeMessage : "data" < "msg" := by decide
  simp only [toJson, success, Json.stored, Json.storedMembers, Json.ofMembers, List.foldl_cons,
    List.foldl_nil, Json.put, String.reduceEq, codeFirst, codeBeforeData, dataBeforeMessage,
    if_true, if_false]

theorem plain_success (plain : (write data).Plain) : (toJson write (success data)).Plain := by
  refine .obj ?_
  simp only [success, List.forall_mem_cons]
  exact ⟨.int (by decide) (by decide), .str "", plain, fun _ member => nomatch member⟩

theorem nesting_success (write : α → Json) (data : α) :
    (toJson write (success data)).nesting = (write data).nesting + 1 := by
  simp [toJson, success, Json.nesting, Json.membersNesting]

theorem payloadOfText_success (plain : (write data).Plain) (some : (write data).stored ≠ .null)
    (reads : read (write data).stored = .ok data)
    (shallow : (toJson write (success data)).nesting ≤ maxNesting) (path : String) :
    payloadOfText read path (toJson write (success data)).compact = .ok data := by
  have text := Json.read_compact (plain_success plain) shallow
  have option : (write data).stored.toOption read = .ok (Option.some data) := by
    rw [Json.toOption, reads]
    · rfl
    · exact some
  have code : (Json.int successCode).toInt .signedWord = .ok successCode := rfl
  have members : ofMembers read
      [("code", .int successCode), ("data", (write data).stored), ("msg", .str "")] =
        .ok (success data) := by
    simp [ofMembers, Json.get?, code, option, Json.toText, bind, Except.bind, success]
  have wrapped : (Json.get? "code"
      [("code", .int successCode), ("data", (write data).stored), ("msg", .str "")]).isSome =
        true := rfl
  simp only [payloadOfText, text, stored_success, payloadOfJson, wrapped, if_true, members]
  rfl

end Envelope

/-- The text of the answer that delivers a catalogue. -/
def catalogueText (records : List Record) : String :=
  (Envelope.toJson Record.forestToJson (.success records)).compact

/-- The text of the answer that delivers a task. -/
def taskText (task : Task) : String := (Envelope.toJson Task.toJson (.success task)).compact

theorem catalogueOfText_catalogueText {records : List Record}
    (shallow : (Envelope.toJson Record.forestToJson (.success records)).nesting ≤ maxNesting)
    (path : String) : catalogueOfText path (catalogueText records) = .ok records := by
  apply Envelope.payloadOfText_success (Record.plain_forestToJson records) _
    (Record.forestOfJson_stored records) shallow
  exact fun impossible => nomatch impossible

theorem taskOfText_taskText (task : Task) (path : String) :
    taskOfText path (taskText task) = .ok task := by
  have shallow : (Envelope.toJson Task.toJson (.success task)).nesting ≤ maxNesting := by
    rw [Envelope.nesting_success, task.nesting_toJson]
    decide
  apply Envelope.payloadOfText_success task.plain_toJson _ task.ofJson_stored shallow
  exact fun impossible => nomatch impossible

/-- Each level of a catalogue takes two of the containers. -/
theorem nesting_catalogue (records : List Record) :
    (Envelope.toJson Record.forestToJson (.success records)).nesting =
      2 * Rose.forestHeight records + 2 := by
  rw [Envelope.nesting_success, Record.nesting_forestToJson]

/-- Within the limit of nesting, a catalogue comes back from the text of the answer that delivers
it, and so does every task; what was read once is read again from what is written of it. -/
theorem payloads_read_back (path : String) :
    (∀ records : List Record,
      (Envelope.toJson Record.forestToJson (.success records)).nesting ≤ maxNesting →
        catalogueOfText path (catalogueText records) = .ok records) ∧
    (∀ task : Task, taskOfText path (taskText task) = .ok task) ∧
    (∀ (text : String) (records : List Record), catalogueOfText path text = .ok records →
      (Envelope.toJson Record.forestToJson (.success records)).nesting ≤ maxNesting →
        catalogueOfText path (catalogueText records) = catalogueOfText path text) ∧
    (∀ (text : String) (task : Task), taskOfText path text = .ok task →
      taskOfText path (taskText task) = taskOfText path text) := by
  refine ⟨fun _ shallow => catalogueOfText_catalogueText shallow path,
    fun task => taskOfText_taskText task path, ?_, ?_⟩
  · intro text records read shallow
    rw [read, catalogueOfText_catalogueText shallow path]
  · intro text task read
    rw [read, taskOfText_taskText task path]

/-- A catalogue of two levels, and a bare one that is written without its gap. -/
theorem payloads_read_back_handbook :
    catalogueOfText "catalogue.json"
        (catalogueText [.node { id := ⟨"guide", by decide⟩, status := some .completed }
          [.node { id := ⟨"start", by decide⟩, content := some "\"A\"\n" } []]]) =
      .ok [.node { id := ⟨"guide", by decide⟩, status := some .completed }
        [.node { id := ⟨"start", by decide⟩, content := some "\"A\"\n" } []]] ∧
    catalogueOfText "catalogue.json" (catalogueText []) =
      catalogueOfText "catalogue.json" "[ ]" := by
  have read : catalogueOfText "catalogue.json" "[ ]" = .ok [] := rfl
  refine ⟨(payloads_read_back "catalogue.json").1 _ ?_,
    (payloads_read_back "catalogue.json").2.2.1 _ _ read ?_⟩
  · rw [nesting_catalogue]
    decide
  · rw [nesting_catalogue]
    decide

end CatalogueViewer
