import CatalogueViewer.Json.Reader
import CatalogueViewer.Settings.Basic

/-!
# Reading settings

Settings are read straight from the text, so the first fault in the text is the one reported,
whether of the text or of a value.  A group of settings is an object, or a list of its fields in
order; what is not given keeps its default.
-/

namespace CatalogueViewer

open Json (DataError IntRange Wanted skipGap)

/-- Reads a value into a state. -/
abbrev Into (σ : Type) := σ → List Char → Except Json.Error (σ × List Char)

namespace Into

/-- A fault of the text where a reader of tokens finds one. -/
def token {α : Type} (r : Except Json.TextError α) : Except Json.Error α := r.mapError .text

/-- The error for a value that has not the wanted form.  A value that is no container is read
first, so its own faults come before. -/
def wrongForm {α : Type} (wanted : Wanted) (s : List Char) : Except Json.Error α :=
  match skipGap s with
  | '[' :: _ => .error (.data (.wrongType .list wanted))
  | '{' :: _ => .error (.data (.wrongType .table wanted))
  | s =>
    match Json.scalar s with
    | .error e => .error (.text e)
    | .ok (v, _) => .error (.data (.wrongType v.found wanted))

/-! ### Single values -/

/-- The whole number that a numeral stands for. -/
def inRange (range : IntRange) : Json → Except DataError Nat
  | .int n => if range.contains n then .ok n.toNat else .error (.outOfRange n range)
  | v => .error (.wrongType v.found (.number range))

def whole (range : IntRange) (s : List Char) : Except Json.Error (Nat × List Char) := do
  match skipGap s with
  | c :: s =>
    if c = '-' || c.isDigit then
      let (v, s) ← token (if c = '-' then Json.number true s else Json.number false (c :: s))
      let n ← (inRange range v).mapError .data
      .ok (n, s)
    else wrongForm (.number range) (c :: s)
  | [] => .error (.text .truncated)

def flag (s : List Char) : Except Json.Error (Bool × List Char) :=
  match skipGap s with
  | 't' :: s => token (Json.letters true ['r', 'u', 'e'] s)
  | 'f' :: s => token (Json.letters false ['a', 'l', 's', 'e'] s)
  | s => wrongForm .flag s

def text (s : List Char) : Except Json.Error (String × List Char) :=
  match skipGap s with
  | '"' :: s => token (Json.string s)
  | s => wrongForm .text s

/-! ### Groups -/

/-- Reads the members of an object to its end; `member` reads what follows a name. -/
def members {σ : Type} (member : String → Into σ) : (fuel : Nat) → (first : Bool) → Into σ
  | 0, _, _, _ => .error (.text .malformed)
  | fuel + 1, first, state, s => do
    match ← token (Json.nextName first s) with
    | .closed s => .ok (state, s)
    | .element s =>
      let (name, s) ← token (Json.string s)
      let (state, s) ← member name state s
      members member fuel false state s

/-- Reads an object of texts; of two members of one name the later counts. -/
def textTable (s : List Char) : Except Json.Error (List (String × String) × List Char) :=
  match skipGap s with
  | '{' :: s =>
    members (fun name table s => do
      let (_, s) ← token (Json.colon s)
      let (value, s) ← text s
      .ok (Json.put name value table, s)) (s.length + 1) true [] s
  | s => wrongForm .table s

/-- A named setting or group of settings. -/
structure Setting (σ : Type) where
  name : String
  read : Into σ

/-- Reads the value after a name: a known one once, an unknown one to pass over it. -/
def member {σ : Type} (fields : List (Setting σ)) (name : String) : Into (List String × σ) :=
  fun (seen, state) s => do
    match fields.find? fun f => f.name = name with
    | none =>
      let (_, s) ← token (Json.colon s)
      let (_, s) ← token (Json.skip s)
      .ok ((seen, state), s)
    | some field =>
      if seen.contains name then .error (.data (.duplicateField name))
      else
        let (_, s) ← token (Json.colon s)
        let (state, s) ← field.read state s
        .ok ((name :: seen, state), s)

/-- Reads the items of a list for these fields. -/
def inOrder {σ : Type} (first : Bool) : List (Setting σ) → Into σ
  | [], state, s => do
    let (_, s) ← token (Json.listEnd s)
    .ok (state, s)
  | field :: fields, state, s => do
    match ← token (Json.nextItem first s) with
    | .closed s => .ok (state, s)
    | .element s =>
      let (state, s) ← field.read state s
      inOrder false fields state s

/-- Reads a group of fields. -/
def group {σ : Type} (shape : String) (fields : List (Setting σ)) : Into σ := fun state s =>
  match skipGap s with
  | '{' :: s => do
    let ((_, state), s) ← members (member fields) (s.length + 1) true ([], state) s
    .ok (state, s)
  | '[' :: s => inOrder true fields state s
  | s => wrongForm (.fields shape) s

/-- Reads a value and puts it in its place. -/
def assign {σ α : Type} (read : List Char → Except Json.Error (α × List Char))
    (set : σ → α → σ) : Into σ := fun state s => do
  let (value, s) ← read s
  .ok (set state value, s)

end Into

namespace ViewerSettings

open Into

def renderFields : List (Setting ViewerSettings) :=
  [⟨"debounce_ms", assign (whole .word) fun s n => { s with debounce := n }⟩]

def treeFields : List (Setting ViewerSettings) :=
  [⟨"max_depth", assign (whole .count) fun s n => { s with maxDepth := n }⟩]

def engineFields : List (Setting ViewerSettings) :=
  [⟨"start_on_load", assign flag fun s b => { s with engine.startOnLoad := b }⟩,
   ⟨"theme", assign text fun s t => { s with engine.theme := t }⟩,
   ⟨"security_level", assign text fun s t => { s with engine.securityLevel := t }⟩,
   ⟨"theme_variables", assign textTable fun s t => { s with engine.themeVariables := t }⟩]

def outlineFields : List (Setting ViewerSettings) :=
  [⟨"max_level", assign (whole .byte) fun s n => { s with outlineLevel := n }⟩]

def fields : List (Setting ViewerSettings) :=
  [⟨"render", group "RenderConfig" renderFields⟩, ⟨"tree", group "TreeLimits" treeFields⟩,
   ⟨"engine", group "EngineConfig" engineFields⟩,
   ⟨"outline", group "OutlineOptions" outlineFields⟩]

def ofText (text : String) : Except Json.Error ViewerSettings := do
  let (settings, rest) ← group "ViewerConfig" fields {} text.toList
  token (Json.textEnd rest)
  .ok settings

def load (files : Files) (path : String) : Except SettingsError ViewerSettings :=
  match files.read path with
  | .error cause => .error (.unreadable path cause)
  | .ok text => (ofText text).mapError (.invalid path)

end ViewerSettings

end CatalogueViewer
