/-!
# Generation status

How far the generation of a document or of a whole task has come.  The document service sends it as
a number.
-/

namespace CatalogueViewer

/-- How far generation has come. -/
inductive Status where
  | inProgress
  | completed
  | failed
  deriving DecidableEq, Repr

namespace Status

def code : Status → Nat
  | inProgress => 1
  | completed => 2
  | failed => 3

def label : Status → String
  | inProgress => "in progress"
  | completed => "completed"
  | failed => "failed"

def ofCode? : Nat → Option Status
  | 1 => some inProgress
  | 2 => some completed
  | 3 => some failed
  | _ => none

theorem ofCode?_eq_some_iff (n : Nat) (s : Status) : ofCode? n = some s ↔ n = s.code := by
  constructor
  · intro h
    unfold ofCode? at h
    split at h <;> cases h <;> rfl
  · rintro rfl
    cases s <;> rfl

end Status

end CatalogueViewer
