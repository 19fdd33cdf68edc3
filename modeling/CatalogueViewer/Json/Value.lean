import CatalogueViewer.Number.Binary64

/-!
# JSON values

An object is a list of members.  `put` keeps the members in the order of their names and gives each
name one member, so an object built by `put` alone does not depend on the order of writing.
-/

namespace CatalogueViewer

/-- A JSON value; numbers are whole or binary fractions. -/
inductive Json where
  | null
  | bool (value : Bool)
  | int (value : Int)
  | float (value : Number.Binary64)
  | str (text : String)
  | arr (items : List Json)
  | obj (members : List (String × Json))

namespace Json

/-- Adds a member in the order of names; a member of the same name is replaced. -/
def put {α : Type} (name : String) (value : α) : List (String × α) → List (String × α)
  | [] => [(name, value)]
  | member :: rest =>
    if name = member.1 then (name, value) :: rest
    else if name < member.1 then (name, value) :: member :: rest
    else member :: put name value rest

def get? {α : Type} (name : String) : List (String × α) → Option α
  | [] => none
  | member :: rest => if member.1 = name then some member.2 else get? name rest

theorem get?_put_self {α : Type} (name : String) (value : α) (members : List (String × α)) :
    get? name (put name value members) = some value := by
  induction members with
  | nil => simp [put, get?]
  | cons member rest ih =>
    unfold put
    split
    next => simp [get?]
    next h =>
      split
      · simp [get?]
      · simp [get?, Ne.symm h, ih]

theorem get?_put_other {α : Type} {name other : String} (h : other ≠ name) (value : α)
    (members : List (String × α)) :
    get? other (put name value members) = get? other members := by
  induction members with
  | nil => simp [put, get?, h.symm]
  | cons member rest ih =>
    unfold put
    split
    next heq => simp [get?, ← heq, h.symm]
    next =>
      split
      · simp [get?, h.symm]
      · simp [get?, ih]

end Json

end CatalogueViewer
