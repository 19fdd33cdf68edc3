import CatalogueViewer.Text.Blank

/-!
# Identifiers

An identifier is a text that is not blank.  Identifiers of catalogue nodes, tasks, diagram slots and
engine attempts are different types; `append` leads from one to another and keeps the text visible.
-/

namespace CatalogueViewer

inductive IdKind where
  | node
  | task
  | slot
  | attempt

/-- An identifier of one kind; its text is not blank. -/
structure Id (kind : IdKind) where
  text : String
  visible : Text.isBlankText text.toList = false
  deriving DecidableEq, Repr

/-- The identifier of a catalogue entry and of its page. -/
abbrev NodeKey := Id .node
abbrev TaskId := Id .task
abbrev SlotId := Id .slot
/-- The identifier of one call to an engine. -/
abbrev AttemptId := Id .attempt

namespace Id

variable {k l : IdKind}

/-- The identifier with this text, unless it is blank. -/
def ofText? (text : String) : Option (Id k) :=
  if h : Text.isBlankText text.toList = false then some ⟨text, h⟩ else none

def append (id : Id k) (more : String) : Id l where
  text := id.text ++ more
  visible := by simp [Text.isBlankText_append, id.visible]

/-- Identifiers compare by code points. -/
def order (a b : Id k) : Ordering := compareOfLessAndEq a.text b.text

theorem ofText?_eq_none_iff (text : String) :
    (ofText? text : Option (Id k)) = none ↔ Text.isBlankText text.toList = true := by
  simp [ofText?]

theorem text_of_ofText? {text : String} {id : Id k} (h : ofText? text = some id) :
    id.text = text := by
  unfold ofText? at h
  split at h
  · cases h; rfl
  · cases h

theorem ofText?_text (id : Id k) : ofText? id.text = some id := by
  simp [ofText?, id.visible]

end Id

end CatalogueViewer
