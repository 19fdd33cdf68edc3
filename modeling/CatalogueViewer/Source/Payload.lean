import CatalogueViewer.Catalogue.Reading
import CatalogueViewer.Catalogue.Writing
import CatalogueViewer.Json.Reader
import CatalogueViewer.Source.Files

/-!
# Payloads of the document service

A payload is a JSON value, bare or inside the envelope of the service.  An object with a member
`code` is an envelope; it is read as a whole before its code is looked at.
-/

namespace CatalogueViewer

open Json (DataError)

/-- The answer of the document service around a payload. -/
structure Envelope (α : Type) where
  code : Int
  message : String
  data : Option α
  deriving Repr

/-- Why no payload was delivered. -/
inductive SourceError where
  | unreadable (path : String) (cause : ReadError)
  | invalid (path : String) (fault : Json.Error)
  | rejected (code : Int) (message : String)
  | notFound (path : String)
  | missingData (path : String)
  deriving DecidableEq, Repr

def SourceError.message : SourceError → String
  | unreadable path cause => "failed to read " ++ path ++ ": " ++ cause.message
  | invalid path fault => "invalid JSON in " ++ path ++ ": " ++ fault.message
  | rejected code message =>
    "document service rejected the request (code " ++ toString code ++ "): " ++ message
  | notFound path => path ++ " does not exist"
  | missingData path => path ++ " carries a successful response without data"

namespace Envelope

/-- The code of an answer that holds its data. -/
def successCode : Int := 200

def success (data : α) : Envelope α := ⟨successCode, "", some data⟩

/-- Reads an envelope from the members of an object: the code, the data, the message. -/
def ofMembers (read : Json → Except DataError α) (members : List (String × Json)) :
    Except DataError (Envelope α) := do
  let code ← match Json.get? "code" members with
    | none => .error (.missingField "code")
    | some v => v.toInt .signedWord
  let data ← match Json.get? "data" members with
    | none => .ok none
    | some v => v.toOption read
  let message ← match Json.get? "msg" members with
    | none => .ok ""
    | some v => v.toText
  .ok ⟨code, message, data⟩

/-- The payload of a successful answer. -/
def payload (path : String) (e : Envelope α) : Except SourceError α :=
  if e.code ≠ successCode then .error (.rejected e.code e.message)
  else
    match e.data with
    | none => .error (.missingData path)
    | some data => .ok data

def toJson (write : α → Json) (e : Envelope α) : Json :=
  .obj
    [("code", .int e.code), ("msg", .str e.message),
     ("data", match e.data with | none => .null | some data => write data)]

end Envelope

/-- The payload that a JSON value carries. -/
def payloadOfJson (read : Json → Except DataError α) (path : String) (v : Json) :
    Except SourceError α :=
  let faulty (e : DataError) : SourceError := .invalid path (.data e)
  match v with
  | .obj members =>
    if (Json.get? "code" members).isSome then do
      (← (Envelope.ofMembers read members).mapError faulty).payload path
    else (read v).mapError faulty
  | v => (read v).mapError faulty

/-- The payload that a text carries. -/
def payloadOfText (read : Json → Except DataError α) (path text : String) :
    Except SourceError α :=
  match Json.read text.toList with
  | .error e => .error (.invalid path (.text e))
  | .ok v => payloadOfJson read path v

def catalogueOfText (path text : String) : Except SourceError (List Record) :=
  payloadOfText Record.forestOfJson path text

def taskOfText (path text : String) : Except SourceError Task :=
  payloadOfText Task.ofJson path text

def Files.payloadText (files : Files) (path : String) : Except SourceError String :=
  match files.read path with
  | .ok text => .ok text
  | .error .notFound => .error (.notFound path)
  | .error cause => .error (.unreadable path cause)

def Files.catalogue (files : Files) (path : String) : Except SourceError (List Record) := do
  catalogueOfText path (← files.payloadText path)

def Files.task (files : Files) (path : String) : Except SourceError Task := do
  taskOfText path (← files.payloadText path)

end CatalogueViewer
