import CatalogueViewer.Catalogue.Record
import CatalogueViewer.Json.Printer

/-!
# Writing records

Records as JSON values.  The members stand in the order of the fields; an absent optional field has
no member, the name and the children always have one.
-/

namespace CatalogueViewer

/-- The member of a field that may be absent. -/
def Json.member? (name : String) (value : Option Json) : List (String × Json) :=
  (value.map fun v => (name, v)).toList

def Status.toJson (s : Status) : Json := .int s.code

namespace Entry

def toMembers (e : Entry) : List (String × Json) :=
  ("catalogueId", .str e.id.text) ::
    Json.member? "parentCatalogueId" (e.parent.map fun id => .str id.text) ++
    ("name", .str e.name) ::
    Json.member? "title" (e.title.map .str) ++
    Json.member? "prompt" (e.prompt.map .str) ++
    Json.member? "dependentFile" (e.dependentFile.map .str) ++
    Json.member? "content" (e.content.map .str) ++
    Json.member? "status" (e.status.map Status.toJson)

end Entry

namespace Record

mutual

def toJson : Record → Json
  | .node entry children => .obj (entry.toMembers ++ [("children", .arr (toJsonList children))])

def toJsonList : List Record → List Json
  | [] => []
  | r :: rest => toJson r :: toJsonList rest

end

def forestToJson (records : List Record) : Json := .arr (toJsonList records)

end Record

def Task.toJson (t : Task) : Json :=
  .obj <|
    ("taskId", .str t.id.text) ::
    ("projectName", .str t.projectName) ::
    Json.member? "projectUrl" (t.projectUrl.map .str) ++
    Json.member? "userName" (t.userName.map .str) ++
    Json.member? "status" (t.status.map Status.toJson) ++
    Json.member? "failReason" (t.failReason.map .str) ++
    Json.member? "createTime" (t.createTime.map .str) ++
    Json.member? "updateTime" (t.updateTime.map .str)

end CatalogueViewer
