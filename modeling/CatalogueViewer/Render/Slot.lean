import CatalogueViewer.Render.Result

/-!
# Slots

A slot shows the diagram in one place of a document.  Every submission raises its generation and is
handed that as a token; only the token of the current generation may commit.  A torn-down slot takes
nothing any more.
-/

namespace CatalogueViewer

/-- The place of one diagram. -/
structure Slot where
  id : SlotId
  generation : Nat := 0
  result : Result := .loading
  closed : Bool := false
  /-- How often the slot has published a change. -/
  published : Nat := 0
  deriving DecidableEq, Repr

namespace Slot

/-- Starts a submission; a closed slot takes none. -/
def begin? (s : Slot) : Option (Nat × Slot) :=
  if s.closed then none
  else some (s.generation + 1,
    { s with generation := s.generation + 1, result := .loading, published := s.published + 1 })

/-- The token is that of the latest submission to an open slot. -/
def accepts (s : Slot) (token : Nat) : Bool := !s.closed && s.generation == token

/-- Publishes the result of the submission with this token, unless it is stale. -/
def finish (s : Slot) (token : Nat) (result : Result) : Outcome × Slot :=
  if s.accepts token then
    (.committed result, { s with result := result, published := s.published + 1 })
  else (.superseded, s)

/-- Closes the slot for good. -/
def teardown (s : Slot) : Slot :=
  { s with generation := s.generation + 1, closed := true, published := s.published + 1 }

theorem begin?_eq_none_iff {s : Slot} : s.begin? = none ↔ s.closed = true := by
  cases h : s.closed <;> simp [begin?, h]

theorem begin?_eq_some_iff {s t : Slot} {token : Nat} :
    s.begin? = some (token, t) ↔ s.closed = false ∧ token = s.generation + 1 ∧
      t = { s with
        generation := s.generation + 1, result := .loading, published := s.published + 1 } := by
  cases h : s.closed <;> simp [begin?, h, eq_comm]

theorem accepts_iff {s : Slot} {token : Nat} :
    s.accepts token = true ↔ s.closed = false ∧ s.generation = token := by
  simp [accepts]

theorem finish_of_accepts {s : Slot} {token : Nat} (accepted : s.accepts token = true)
    (result : Result) :
    s.finish token result =
      (.committed result, { s with result := result, published := s.published + 1 }) := by
  simp [finish, accepted]

theorem finish_of_stale {s : Slot} {token : Nat} (stale : s.accepts token = false)
    (result : Result) : s.finish token result = (.superseded, s) := by
  simp [finish, stale]

end Slot

end CatalogueViewer
