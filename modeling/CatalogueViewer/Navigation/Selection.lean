import CatalogueViewer.Tree.Page

/-!
# Selection

The document on view.  Only a document can be selected: `selectLeaf` leaves the selection alone when
it is given a section.
-/

namespace CatalogueViewer

structure Selection where
  active : Option NodeKey := none
  title : String := ""
  body : String := ""
  deriving DecidableEq, Repr

namespace Selection

def empty : Selection := {}

def isEmpty (s : Selection) : Bool := s.active.isNone

/-- Selects a document; the flag tells whether the tree is one. -/
def selectLeaf (s : Selection) (t : PageTree) : Bool × Selection :=
  if t.isLeaf then (true, ⟨some t.value.key, t.value.title, t.value.body⟩) else (false, s)

end Selection

end CatalogueViewer
