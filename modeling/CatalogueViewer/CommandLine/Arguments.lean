/-!
# Command line arguments

One catalogue, a few options with a value, which may follow an equals sign, and flags.  Each option
and flag may stand once.  Arguments are read in order and the first fault counts.
-/

namespace CatalogueViewer.CommandLine

structure Arguments where
  catalogue : String
  task : Option String := none
  select : Option String := none
  config : Option String := none
  debounce : Option Nat := none
  maxDepth : Option Nat := none
  tree : Bool := false
  outline : Bool := false
  diagrams : Bool := false
  deriving DecidableEq, Repr

inductive Request where
  | run (arguments : Arguments)
  | version
  | help
  deriving DecidableEq, Repr

inductive UsageError where
  | unknown (argument : String)
  | repeated (name : String)
  | missingValue (name : String)
  | unexpectedValue (name : String)
  | invalidValue (name value : String)
  | missingCatalogue
  deriving DecidableEq, Repr

def UsageError.message : UsageError → String
  | unknown argument => "unexpected argument '" ++ argument ++ "'"
  | repeated name => "the argument '" ++ name ++ "' cannot be used multiple times"
  | missingValue name => "a value is required for '" ++ name ++ "'"
  | unexpectedValue name => "'" ++ name ++ "' takes no value"
  | invalidValue name value => "invalid value '" ++ value ++ "' for '" ++ name ++ "'"
  | missingCatalogue => "a catalogue file is required"

/-- An argument as written: a name with two dashes, with or without a value, or something else. -/
inductive Word where
  | long (name : String) (value : Option String)
  | short (letter : Char)
  /-- Two dashes alone; no names follow. -/
  | separator
  | plain (text : String)
  deriving DecidableEq, Repr

/-- The form of an argument; a dash alone is plain. -/
def Word.ofArgument (s : String) : Word :=
  match s.toList with
  | ['-', '-'] => .separator
  | '-' :: '-' :: rest =>
    let name := rest.takeWhile (· != '=')
    match rest.drop name.length with
    | [] => .long (String.ofList rest) none
    | _ :: value => .long (String.ofList name) (some (String.ofList value))
  | '-' :: c :: _ => .short c
  | _ => .plain s

inductive OptionName where
  | task
  | select
  | config
  | debounce
  | maxDepth
  deriving DecidableEq, Repr

inductive FlagName where
  | tree
  | outline
  | diagrams
  | version
  | help
  deriving DecidableEq, Repr

/-- A name after two dashes. -/
inductive LongName where
  | option (name : OptionName)
  | flag (name : FlagName)
  deriving DecidableEq, Repr

def LongName.ofText? : String → Option LongName
  | "task" => some (.option .task)
  | "select" => some (.option .select)
  | "config" => some (.option .config)
  | "debounce-ms" => some (.option .debounce)
  | "max-depth" => some (.option .maxDepth)
  | "tree" => some (.flag .tree)
  | "outline" => some (.flag .outline)
  | "diagrams" => some (.flag .diagrams)
  | "version" => some (.flag .version)
  | "help" => some (.flag .help)
  | _ => none

/-- A number of 64 bits: digits, perhaps after a plus sign. -/
def number? (s : String) : Option Nat :=
  let digits := match s.toList with
    | '+' :: rest => rest
    | cs => cs
  if digits.isEmpty || !digits.all Char.isDigit then none
  else
    let n := digits.foldl (fun n c => n * 10 + (c.toNat - '0'.toNat)) 0
    if n < UInt64.size then some n else none

structure Draft where
  catalogue : Option String := none
  arguments : Arguments := { catalogue := "" }

namespace Draft

/-- There is one catalogue, and its path is not empty. -/
def setCatalogue (d : Draft) (path : String) : Except UsageError Draft :=
  match d.catalogue with
  | some _ => .error (.unknown path)
  | none =>
    if path = "" then .error (.invalidValue "<CATALOGUE>" path)
    else .ok { d with catalogue := some path }

/-- A file name is not empty. -/
def path (name value : String) (old : Option String) : Except UsageError (Option String) :=
  if old.isSome then .error (.repeated name)
  else if value = "" then .error (.invalidValue name value)
  else .ok (some value)

/-- A number option is given once. -/
def number (name value : String) (old : Option Nat) : Except UsageError (Option Nat) :=
  if old.isSome then .error (.repeated name)
  else
    match number? value with
    | some n => .ok (some n)
    | none => .error (.invalidValue name value)

/-- Gives an option its value; `written` is its name as it stands in faults. -/
def setOption (d : Draft) (written : String) (name : OptionName) (value : String) :
    Except UsageError Draft := do
  let a := d.arguments
  let a ← match name with
    | .task => do .ok { a with task := ← path written value a.task }
    | .config => do .ok { a with config := ← path written value a.config }
    | .select =>
      if a.select.isSome then .error (.repeated written) else .ok { a with select := some value }
    | .debounce => do .ok { a with debounce := ← number written value a.debounce }
    | .maxDepth => do .ok { a with maxDepth := ← number written value a.maxDepth }
  .ok { d with arguments := a }

/-- A flag is raised once. -/
def flag (name : String) (old : Bool) : Except UsageError Bool :=
  if old then .error (.repeated name) else .ok true

def finish (d : Draft) : Except UsageError Request :=
  match d.catalogue with
  | none => .error .missingCatalogue
  | some path => .ok (.run { d.arguments with catalogue := path })

end Draft

def readPlain (d : Draft) : List String → Except UsageError Request
  | [] => d.finish
  | s :: rest => do readPlain (← d.setCatalogue s) rest

def readFlag (d : Draft) (written : String) : FlagName → Except UsageError (Draft ⊕ Request)
  | .version => .ok (.inr .version)
  | .help => .ok (.inr .help)
  | .tree => do
    let shown ← Draft.flag written d.arguments.tree
    .ok (.inl { d with arguments.tree := shown })
  | .outline => do
    let shown ← Draft.flag written d.arguments.outline
    .ok (.inl { d with arguments.outline := shown })
  | .diagrams => do
    let shown ← Draft.flag written d.arguments.diagrams
    .ok (.inl { d with arguments.diagrams := shown })

def readFrom (d : Draft) : List String → Except UsageError Request
  | [] => d.finish
  | s :: rest =>
    match Word.ofArgument s with
    | .separator => readPlain d rest
    | .plain text => do readFrom (← d.setCatalogue text) rest
    | .short 'V' => .ok .version
    | .short 'h' => .ok .help
    | .short _ => .error (.unknown s)
    | .long name value =>
      match LongName.ofText? name, value with
      | none, _ => .error (.unknown s)
      | some (.flag _), some _ => .error (.unexpectedValue s)
      | some (.flag f), none => do
        match ← readFlag d s f with
        | .inl d => readFrom d rest
        | .inr request => .ok request
      | some (.option o), some value => do readFrom (← d.setOption s o value) rest
      | some (.option o), none =>
        match rest with
        | [] => .error (.missingValue s)
        | value :: rest =>
          match Word.ofArgument value with
          | .plain _ => do readFrom (← d.setOption s o value) rest
          | _ => .error (.missingValue s)

def Request.ofArguments (arguments : List String) : Except UsageError Request :=
  readFrom {} arguments

end CatalogueViewer.CommandLine
