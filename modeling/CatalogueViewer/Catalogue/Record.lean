import CatalogueViewer.Catalogue.Id
import CatalogueViewer.Catalogue.Status
import CatalogueViewer.Tree.Rose

/-!
# Records of the document service

A catalogue is a forest of entries.  The service sends it nested or flat; in a flat payload each
entry names its parent.  A task describes the repository that the catalogue was generated from.
-/

namespace CatalogueViewer

/-- One catalogue entry without the entries below it. -/
structure Entry where
  id : NodeKey
  parent : Option NodeKey := none
  name : String := ""
  title : Option String := none
  prompt : Option String := none
  dependentFile : Option String := none
  content : Option String := none
  status : Option Status := none
  deriving DecidableEq, Repr

/-- The name, or the title for an entry whose name is blank. -/
def Entry.displayName (e : Entry) : String :=
  if Text.isBlankText e.name.toList then e.title.getD "" else e.name

/-- An entry with the entries below it. -/
abbrev Record := Rose Entry

/-- The generation of a catalogue from a repository. -/
structure Task where
  id : TaskId
  projectName : String := ""
  projectUrl : Option String := none
  userName : Option String := none
  status : Option Status := none
  failReason : Option String := none
  createTime : Option String := none
  updateTime : Option String := none
  deriving DecidableEq, Repr

end CatalogueViewer
