import CatalogueViewer.Json.Value
import CatalogueViewer.Number.Shortest
import CatalogueViewer.Text.Quoted

/-!
# What is wrong with a JSON document

A text may break the grammar or stop too early; a value may not have the form that its place asks
for.  `DataError.message` is the wording of the second kind.
-/

namespace CatalogueViewer.Json

/-- Why a text is not a JSON value. -/
inductive TextError where
  /-- Some character cannot stand where it stands, or a limit of the grammar is passed. -/
  | malformed
  /-- The text ends inside the value. -/
  | truncated
  deriving DecidableEq, Repr

/-- What stands where something else is wanted. -/
inductive Found where
  | null
  | bool (value : Bool)
  | int (value : Int)
  | float (value : Number.Binary64)
  | str (text : String)
  | list
  | table
  deriving DecidableEq, Repr

def found : Json → Found
  | .null => .null
  | .bool b => .bool b
  | .int n => .int n
  | .float x => .float x
  | .str s => .str s
  | .arr _ => .list
  | .obj _ => .table

def Found.describe : Found → String
  | .null => "null"
  | .bool b => "boolean `" ++ (if b then "true" else "false") ++ "`"
  | .int n => "integer `" ++ toString n ++ "`"
  | .float x => "floating point `" ++ String.ofList x.text ++ "`"
  | .str s => "string " ++ Text.quoted s
  | .list => "sequence"
  | .table => "map"

/-- A range of whole numbers, with its name. -/
inductive IntRange where
  | byte
  | word
  | signedWord
  | count
  deriving DecidableEq, Repr

namespace IntRange

def name : IntRange → String
  | byte => "u8"
  | word => "u64"
  | signedWord => "i64"
  | count => "usize"

def contains (range : IntRange) (n : Int) : Bool :=
  match range with
  | byte => 0 ≤ n && n < UInt8.size
  | word => 0 ≤ n && n < UInt64.size
  | signedWord => -9223372036854775808 ≤ n && n ≤ 9223372036854775807
  | count => 0 ≤ n && n < UInt64.size

end IntRange

inductive Wanted where
  | text
  | list
  | table
  | flag
  | number (range : IntRange)
  /-- A value with named fields. -/
  | fields (shape : String)
  deriving DecidableEq, Repr

def Wanted.describe : Wanted → String
  | .text => "a string"
  | .list => "a sequence"
  | .table => "a map"
  | .flag => "a boolean"
  | .number range => range.name
  | .fields shape => "struct " ++ shape

/-- Why a value does not have the form that its place asks for. -/
inductive DataError where
  | wrongType (found : Found) (wanted : Wanted)
  | outOfRange (value : Int) (range : IntRange)
  | missingField (name : String)
  | duplicateField (name : String)
  /-- An id is neither a text nor a whole number. -/
  | notAnId
  | blankId
  | unknownStatus (code : Nat)
  /-- A list without elements stands for a value whose first field is required. -/
  | noElements (shape : String) (fields : Nat)
  /-- A list has more elements than the value has fields. -/
  | tooManyElements (count : Nat)
  deriving DecidableEq, Repr

def DataError.message : DataError → String
  | wrongType found wanted => "invalid type: " ++ found.describe ++ ", expected " ++ wanted.describe
  | outOfRange value range =>
    "invalid value: integer `" ++ toString value ++ "`, expected " ++ range.name
  | missingField name => "missing field `" ++ name ++ "`"
  | duplicateField name => "duplicate field `" ++ name ++ "`"
  | notAnId => "data did not match any variant of untagged enum RawKey"
  | blankId => "id must not be empty"
  | unknownStatus code =>
    "unknown generation status code: " ++ toString code ++ " (expected 1, 2 or 3)"
  | noElements shape fields =>
    "invalid length 0, expected struct " ++ shape ++ " with " ++ toString fields ++ " elements"
  | tooManyElements count =>
    "invalid length " ++ toString count ++ ", expected fewer elements in array"

inductive Error where
  | text (error : TextError)
  | data (error : DataError)
  deriving DecidableEq, Repr

/-- The wording that stands for every fault at a place in a text. -/
def faultAtPlace : String := "<json error>"

/-- The wording of a fault, with its place if it has one. -/
def Error.message : Error → String
  | text _ => faultAtPlace
  | data error => error.message

end CatalogueViewer.Json
