import CatalogueViewer.Catalogue.Record
import CatalogueViewer.Json.Error

/-!
# Reading records

Records from JSON values.  A record is an object, whose unknown members are passed over, or a list
of its fields in a fixed order.  The members of an object are read in the order in which they stand
and the first fault counts; a missing field is noticed last.
-/

namespace CatalogueViewer

open Json (DataError)

namespace Json

def toText : Json → Except DataError String
  | .str s => .ok s
  | v => .error (.wrongType v.found .text)

def toInt (range : IntRange) : Json → Except DataError Int
  | .int n => if range.contains n then .ok n else .error (.outOfRange n range)
  | v => .error (.wrongType v.found (.number range))

/-- Null stands for an absent value. -/
def toOption (read : Json → Except DataError α) : Json → Except DataError (Option α)
  | .null => .ok none
  | v => (read v).map some

end Json

def Status.ofJson (v : Json) : Except DataError Status := do
  let code ← v.toInt .byte
  match Status.ofCode? code.toNat with
  | some status => .ok status
  | none => .error (.unknownStatus code.toNat)

namespace Id

def ofText {k : IdKind} (text : String) : Except DataError (Id k) :=
  match ofText? text with
  | some id => .ok id
  | none => .error .blankId

/-- An id is a text or a whole number of 64 bits, which stands for its decimal text. -/
def ofJson {k : IdKind} : Json → Except DataError (Id k)
  | .str s => ofText s
  | .int n => if Json.IntRange.signedWord.contains n then ofText (toString n) else .error .notAnId
  | _ => .error .notAnId

/-- A blank text and null stand for no id. -/
def ofJson? {k : IdKind} : Json → Except DataError (Option (Id k))
  | .null => .ok none
  | .str s => .ok (ofText? s)
  | v => (ofJson v).map some

end Id

/-! ### Catalogue records -/

namespace Record

structure Draft where
  id : Option NodeKey := none
  parent : Option NodeKey := none
  name : String := ""
  title : Option String := none
  prompt : Option String := none
  dependentFile : Option String := none
  content : Option String := none
  status : Option Status := none
  children : List Record := []

def shape : String := "CatalogueRecord"

/-- The fields in the order in which a list gives them. -/
def fieldNames : List String :=
  ["catalogueId", "parentCatalogueId", "name", "title", "prompt", "dependentFile", "content",
   "status", "children"]

namespace Draft

def set (d : Draft) (name : String) (v : Json) : Except DataError Draft :=
  match name with
  | "catalogueId" => do .ok { d with id := some (← Id.ofJson v) }
  | "parentCatalogueId" => do .ok { d with parent := ← Id.ofJson? v }
  | "name" => do .ok { d with name := ← v.toText }
  | "title" => do .ok { d with title := ← v.toOption Json.toText }
  | "prompt" => do .ok { d with prompt := ← v.toOption Json.toText }
  | "dependentFile" => do .ok { d with dependentFile := ← v.toOption Json.toText }
  | "content" => do .ok { d with content := ← v.toOption Json.toText }
  | "status" => do .ok { d with status := ← v.toOption Status.ofJson }
  | _ => .ok d

def finish (d : Draft) : Except DataError Record :=
  match d.id with
  | none => .error (.missingField "catalogueId")
  | some id => .ok <| .node
      { id, parent := d.parent, name := d.name, title := d.title, prompt := d.prompt,
        dependentFile := d.dependentFile, content := d.content, status := d.status } d.children

end Draft

mutual

def ofJson : Json → Except DataError Record
  | .obj members => do (← ofMembers {} members).finish
  | .arr [] => .error (.noElements shape fieldNames.length)
  | .arr (item :: items) => do
    let d ← ofItems {} fieldNames (item :: items)
    if fieldNames.length < items.length + 1 then .error (.tooManyElements (items.length + 1))
    else d.finish
  | v => .error (.wrongType v.found (.fields shape))

def ofMembers (d : Draft) : List (String × Json) → Except DataError Draft
  | [] => .ok d
  | (name, v) :: rest => do
    if name = "children" then ofMembers { d with children := ← childrenOf v } rest
    else ofMembers (← d.set name v) rest

/-- Reads the items of a list for the fields of these names. -/
def ofItems (d : Draft) : (names : List String) → List Json → Except DataError Draft
  | [], _ => .ok d
  | _, [] => .ok d
  | name :: names, v :: rest => do
    if name = "children" then ofItems { d with children := ← childrenOf v } names rest
    else ofItems (← d.set name v) names rest

/-- Null stands for no children. -/
def childrenOf : Json → Except DataError (List Record)
  | .null => .ok []
  | .arr items => ofList items
  | v => .error (.wrongType v.found .list)

def ofList : List Json → Except DataError (List Record)
  | [] => .ok []
  | item :: items => do
    let r ← ofJson item
    let rs ← ofList items
    .ok (r :: rs)

end

/-- The forest of a catalogue payload. -/
def forestOfJson : Json → Except DataError (List Record)
  | .arr items => ofList items
  | v => .error (.wrongType v.found .list)

end Record

/-! ### Tasks -/

namespace Task

structure Draft where
  id : Option TaskId := none
  projectName : String := ""
  projectUrl : Option String := none
  userName : Option String := none
  status : Option Status := none
  failReason : Option String := none
  createTime : Option String := none
  updateTime : Option String := none

def shape : String := "TaskDetail"

def fieldNames : List String :=
  ["taskId", "projectName", "projectUrl", "userName", "status", "failReason", "createTime",
   "updateTime"]

namespace Draft

def set (d : Draft) (name : String) (v : Json) : Except DataError Draft :=
  match name with
  | "taskId" => do .ok { d with id := some (← Id.ofText (← v.toText)) }
  | "projectName" => do .ok { d with projectName := ← v.toText }
  | "projectUrl" => do .ok { d with projectUrl := ← v.toOption Json.toText }
  | "userName" => do .ok { d with userName := ← v.toOption Json.toText }
  | "status" => do .ok { d with status := ← v.toOption Status.ofJson }
  | "failReason" => do .ok { d with failReason := ← v.toOption Json.toText }
  | "createTime" => do .ok { d with createTime := ← v.toOption Json.toText }
  | "updateTime" => do .ok { d with updateTime := ← v.toOption Json.toText }
  | _ => .ok d

def setAll (d : Draft) (fields : List (String × Json)) : Except DataError Draft :=
  fields.foldlM (fun d field => d.set field.1 field.2) d

def finish (d : Draft) : Except DataError Task :=
  match d.id with
  | none => .error (.missingField "taskId")
  | some id => .ok
      { id, projectName := d.projectName, projectUrl := d.projectUrl, userName := d.userName,
        status := d.status, failReason := d.failReason, createTime := d.createTime,
        updateTime := d.updateTime }

end Draft

def ofJson : Json → Except DataError Task
  | .obj members => do (← Draft.setAll {} members).finish
  | .arr [] => .error (.noElements shape fieldNames.length)
  | .arr items => do
    let d ← Draft.setAll {} (fieldNames.zip items)
    if fieldNames.length < items.length then .error (.tooManyElements items.length)
    else d.finish
  | v => .error (.wrongType v.found (.fields shape))

end Task

end CatalogueViewer
