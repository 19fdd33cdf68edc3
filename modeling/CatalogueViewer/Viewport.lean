import CatalogueViewer.Markdown.Block
import CatalogueViewer.Markdown.Outline
import CatalogueViewer.Navigation.Expansion
import CatalogueViewer.Navigation.Selection
import CatalogueViewer.Render.Desk
import CatalogueViewer.Settings.Basic
import CatalogueViewer.Source.Payload
import CatalogueViewer.Tree.Assembly
import CatalogueViewer.Tree.Walk

/-!
# The viewport

The state of a viewer: the tree of pages, which sections are expanded, the document on view with its
outline and blocks, and a slot for each of its diagrams.  Selecting a document closes the slots of
the one before.
-/

namespace CatalogueViewer

/-- A diagram in the document on view. -/
structure Occurrence where
  /-- The position of its block. -/
  block : Nat
  source : String
  slot : Slot
  deriving DecidableEq, Repr

/-- What a viewport shows for a block. -/
inductive BlockView where
  | text (source : String)
  | code (language : Option String) (text : String)
  | diagram (slot : SlotId) (source : String) (view : DiagramView)
  deriving DecidableEq, Repr

/-- Why a viewport could not be opened. -/
inductive OpenError where
  | source (error : SourceError)
  | tree (error : TreeError)
  deriving DecidableEq, Repr

def OpenError.message : OpenError → String
  | source error => error.message
  | tree error => error.message

/-- What a request to show a page came to. -/
inductive SelectOutcome where
  | selected
  /-- The key names a section; nothing changes. -/
  | ignoredSection
  | notFound
  deriving DecidableEq, Repr

/-- A viewer at one moment. -/
structure Viewport where
  tree : List PageTree
  task : Option Task
  expansion : Expansion
  selection : Selection := .empty
  outlineLevel : Nat
  outline : List Markdown.Anchor := []
  blocks : List Markdown.Block := []
  occurrences : List Occurrence := []
  /-- The slots of the documents shown before. -/
  retired : List Slot := []
  scroll : Nat := 0
  renderer : Renderer
  session : Session := {}

namespace Viewport

/-- The slot of the diagram number `n` of a document. -/
def slotId (key : NodeKey) (n : Nat) : SlotId := key.append ("-diagram-" ++ toString n)

/-- The diagrams among blocks that start at position `i`, of which the first is number `n`. -/
def occurrencesFrom (key : NodeKey) (i n : Nat) : List Markdown.Block → List Occurrence
  | [] => []
  | .text _ :: rest => occurrencesFrom key (i + 1) n rest
  | .code b :: rest =>
    if b.isDiagram then
      ⟨i, b.text, { id := slotId key n }⟩ :: occurrencesFrom key (i + 1) (n + 1) rest
    else occurrencesFrom key (i + 1) n rest

/-- Shows the document that is selected. -/
def refresh (v : Viewport) : Viewport :=
  let body := v.selection.body
  let blocks := Markdown.blocks body
  { v with
    outline := Markdown.outline v.outlineLevel body
    blocks := blocks
    occurrences :=
      match v.selection.active with
      | none => []
      | some key => occurrencesFrom key 0 0 blocks
    retired := v.retired ++ v.occurrences.map fun o => o.slot.teardown
    scroll := 0 }

def select (v : Viewport) (key : NodeKey) : SelectOutcome × Viewport :=
  match locate v.tree key with
  | none => (.notFound, v)
  | some (.parent _) => (.ignoredSection, v)
  | some (.leaf t) => (.selected, { v with selection := (v.selection.selectLeaf t).2 }.refresh)

/-- Expands or collapses a section; the flag tells whether it is expanded afterwards.  Documents and
unknown keys are never expanded. -/
def toggle (v : Viewport) (key : NodeKey) : Bool × Viewport :=
  match locate v.tree key with
  | some (.parent _) =>
    let (expanded, expansion) := v.expansion.toggle key
    (expanded, { v with expansion := expansion })
  | _ => (false, v)

def scrollTo (v : Viewport) (offset : Nat) : Viewport := { v with scroll := offset }

def rows (v : Viewport) : List PageTree := visibleRows v.expansion v.tree

/-- Opens a catalogue: expands the sections of the first level and selects the first document with
content. -/
def ofRecords (settings : ViewerSettings) (records : List Record) (task : Option Task) :
    Except TreeError Viewport := do
  let tree ← buildChecked settings.maxDepth (← assembleChecked settings.maxDepth records)
  let v : Viewport :=
    { tree, task, expansion := .ofKeys (Expansion.initial tree),
      outlineLevel := settings.outlineLevel,
      renderer := { settings := settings.engine, debounce := settings.debounce } }
  match firstDocument? tree with
  | none => .ok v
  | some t => .ok (v.select t.value.key).2

/-- Opens the catalogue of a file, with the task of another one. -/
def ofFiles (settings : ViewerSettings) (files : Files) (catalogue : String)
    (task : Option String) : Except OpenError Viewport := do
  let records ← (files.catalogue catalogue).mapError .source
  let task ← match task with
    | none => .ok none
    | some path => ((files.task path).map some).mapError OpenError.source
  (ofRecords settings records task).mapError .tree

/-! ### Diagrams -/

/-- The desk with the slots of the document on view. -/
def desk (v : Viewport) : Desk :=
  { session := v.session, slots := v.occurrences.map Occurrence.slot }

/-- Submits the texts to the slots from number `i` on. -/
def startAll (renderer : Renderer) (i : Nat) : List String → Desk → Desk
  | [], d => d
  | text :: rest, d => startAll renderer (i + 1) rest (d.start renderer i text)

/-- The outcome of a submission that has ended. -/
def outcomeOf (d : Desk) (number : Nat) : Outcome :=
  match d.finished.find? fun f => f.number == number with
  | some f => f.outcome
  | none => .superseded

/-- Renders the diagrams of the document on view side by side and waits for all of them. -/
def render (v : Viewport) (engine : Engine) : List Outcome × Viewport :=
  let started := startAll v.renderer 0 (v.occurrences.map Occurrence.source) v.desk
  let d := started.drain engine v.renderer
  ((List.range v.occurrences.length).map (outcomeOf d),
   { v with
     session := d.session
     occurrences := v.occurrences.zipWith (fun o slot => { o with slot := slot }) d.slots })

/-- What is shown for the block at a position. -/
def viewBlock (v : Viewport) (i : Nat) : Markdown.Block → BlockView
  | .text source => .text source
  | .code b =>
    match v.occurrences.find? fun o => o.block == i with
    | some o => .diagram o.slot.id o.source o.slot.result.view
    | none => .code b.language b.text

/-- The document on view, block by block. -/
def view (v : Viewport) : List BlockView := v.blocks.mapIdx v.viewBlock

end Viewport

end CatalogueViewer
