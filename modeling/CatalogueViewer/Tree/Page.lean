import CatalogueViewer.Catalogue.Record

/-!
# Pages

The nodes of the navigable tree.  A page without pages below it is a document; the others are
sections and only structure the catalogue.
-/

namespace CatalogueViewer

structure Page where
  key : NodeKey
  title : String
  /-- The distance from the roots. -/
  level : Nat
  content : Option String
  deriving DecidableEq, Repr

namespace Page

/-- The content, where there is none the empty text. -/
def body (p : Page) : String := p.content.getD ""

def hasContent (p : Page) : Bool := p.body != ""

def ofEntry (level : Nat) (e : Entry) : Page where
  key := e.id
  title := e.displayName
  level := level
  content := e.content

end Page

/-- A page with the pages below it. -/
abbrev PageTree := Rose Page

end CatalogueViewer
