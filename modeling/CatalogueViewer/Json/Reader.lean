import CatalogueViewer.Json.Numeral

/-!
# Reading JSON

`read` turns a whole text into a value.  Containers nest at most `maxNesting` deep.  `skip` passes
over a value that nobody wants: it keeps to the same grammar, but neither counts the nesting nor
weighs numbers nor pairs surrogates.
-/

namespace CatalogueViewer.Json

/-- The number of containers that may enclose each other. -/
def maxNesting : Nat := 127

def scalar (s : List Char) : Except TextError (Json × List Char) :=
  match skipGap s with
  | [] => .error .truncated
  | 'n' :: s => letters .null ['u', 'l', 'l'] s
  | 't' :: s => letters (.bool true) ['r', 'u', 'e'] s
  | 'f' :: s => letters (.bool false) ['a', 'l', 's', 'e'] s
  | '"' :: s => do
    let (text, s) ← string s
    .ok (.str text, s)
  | '-' :: s => number true s
  | c :: s => if c.isDigit then number false (c :: s) else .error .malformed

/-- The object with these members; of two members of one name the later counts. -/
def ofMembers (members : List (String × Json)) : Json :=
  .obj (members.foldl (fun done member => put member.1 member.2 done) [])

/-- Reads a value of at most `nesting` containers inside each other. -/
def value : (nesting : Nat) → Reader Json
  | 0, s => scalar s
  | nesting + 1, s =>
    match skipGap s with
    | '[' :: s => do
      let (xs, s) ← items (value nesting) (s.length + 1) true s
      .ok (.arr xs, s)
    | '{' :: s => do
      let (xs, s) ← members string (value nesting) (s.length + 1) true s
      .ok (ofMembers xs, s)
    | _ => scalar s

def read (text : List Char) : Except TextError Json := do
  let (v, rest) ← value maxNesting text
  textEnd rest
  .ok v

def skipScalar (s : List Char) : Except TextError (Unit × List Char) :=
  match skipGap s with
  | [] => .error .truncated
  | 'n' :: s => letters () ['u', 'l', 'l'] s
  | 't' :: s => letters () ['r', 'u', 'e'] s
  | 'f' :: s => letters () ['a', 'l', 's', 'e'] s
  | '"' :: s => skipString s
  | '-' :: s => skipNumber s
  | c :: s => if c.isDigit then skipNumber (c :: s) else .error .malformed

/-- Passes over a value of at most `nesting` containers inside each other. -/
def skipValue : (nesting : Nat) → Reader Unit
  | 0, s => skipScalar s
  | nesting + 1, s =>
    match skipGap s with
    | '[' :: s => do
      let (_, s) ← items (skipValue nesting) (s.length + 1) true s
      .ok ((), s)
    | '{' :: s => do
      let (_, s) ← members skipString (skipValue nesting) (s.length + 1) true s
      .ok ((), s)
    | _ => skipScalar s

def skip : Reader Unit := fun s => skipValue s.length s

end CatalogueViewer.Json
