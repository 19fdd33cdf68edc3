import CatalogueViewer.CommandLine.Arguments
import CatalogueViewer.Engine.Preview
import CatalogueViewer.Settings.Reading
import CatalogueViewer.Viewport

/-!
# Reports

What a run of the command line prints: the task, the tree of pages, the outline of the document on
view and its diagrams.
-/

namespace CatalogueViewer.CommandLine

structure Report where
  code : Nat := 0
  output : String := ""
  errors : String := ""
  deriving DecidableEq, Repr

def version : String := "wikiview 0.1.0"

def usage : String :=
  "Browse a generated repository wiki catalogue\n\n" ++
  "Usage: wikiview [OPTIONS] <CATALOGUE>\n\n" ++
  "Options: --task <FILE> --select <KEY> --config <FILE> --debounce-ms <MS> --max-depth <LEVELS>\n" ++
  "         --tree --outline --diagrams --help --version\n"

def lines (ls : List String) : String := String.join (ls.map (· ++ "\n"))

def indent (n : Nat) : String := String.join (List.replicate n "  ")

def taskLines (t : Task) : List String :=
  let status := (t.status.map Status.label).getD "unknown"
  (t.projectName ++ " [" ++ t.id.text ++ "] (" ++ status ++ ")") ::
    (t.projectUrl.map ("  " ++ ·)).toList ++
    (t.failReason.map ("  failed: " ++ ·)).toList ++ [""]

def treeLine (v : Viewport) (t : PageTree) : String :=
  let marker :=
    if t.isLeaf then "·" else if v.expansion.contains t.value.key then "▾" else "▸"
  let cursor := if v.selection.active = some t.value.key then ">" else " "
  cursor ++ indent t.value.level ++ marker ++ " " ++ t.value.title

def treeLines (v : Viewport) : List String := v.rows.map (treeLine v) ++ [""]

def anchorLine (a : Markdown.Anchor) : String :=
  indent (a.level - 1) ++ "- " ++ a.title ++ " (#" ++ a.id ++ ")"

def outlineLines (v : Viewport) : List String :=
  if v.selection.isEmpty then ["(no document selected)"]
  else
    ("# " ++ v.selection.title) ::
      (if v.outline.isEmpty then ["(no headings)"] else v.outline.map anchorLine) ++ [""]

def diagramLine (source : String) : DiagramView → String
  | .rendered body => body
  | .failed message => "render failed: " ++ message
  | .code => "(shown as code)\n" ++ source
  | .pending => "(pending)"

def blockLines : BlockView → List String
  | .diagram slot source view => [slot.text ++ ":", diagramLine source view, ""]
  | _ => []

def diagramLines (v : Viewport) : List String :=
  match v.view.flatMap blockLines with
  | [] => ["(no diagrams)"]
  | ls => ls

/-- The viewport after the wish to show a page, and what there is to say about it. -/
def showPage (v : Viewport) (wish : Option String) : Except String (Viewport × List String) :=
  match wish with
  | none => .ok (v, [])
  | some text =>
    match (Id.ofText? text : Option NodeKey) with
    | none => .error Json.DataError.blankId.message
    | some key =>
      match v.select key with
      | (.selected, v) => .ok (v, [])
      | (.ignoredSection, v) =>
        .ok (v, [text ++ " is a section, not a document; keeping the current selection"])
      | (.notFound, _) => .error ("no catalogue entry with id " ++ text)

/-- The viewport that the arguments ask for. -/
def openViewport (files : Files) (a : Arguments) : Except String (Viewport × List String) := do
  let settings ← match a.config with
    | none => .ok {}
    | some path => (ViewerSettings.load files path).mapError SettingsError.message
  let settings := settings.override a.debounce a.maxDepth
  let v ← (Viewport.ofFiles settings files a.catalogue a.task).mapError OpenError.message
  showPage v a.select

/-- The parts that the flags choose; without a flag all of them. -/
def report (v : Viewport) (a : Arguments) : List String :=
  let everything := !(a.tree || a.outline || a.diagrams)
  let part (chosen : Bool) (ls : List String) : List String :=
    if chosen || everything then ls else []
  (v.task.map taskLines).getD [] ++ part a.tree (treeLines v) ++ part a.outline (outlineLines v) ++
    part a.diagrams (diagramLines (v.render Engine.preview).2)

/-- The report on a catalogue: an error, or the parts that were asked for. -/
def run (files : Files) (a : Arguments) : Report :=
  match openViewport files a with
  | .error message => { code := 1, errors := "error: " ++ message ++ "\n" }
  | .ok (v, notes) => { output := lines (report v a), errors := lines notes }

def answer (files : Files) (arguments : List String) : Report :=
  match Request.ofArguments arguments with
  | .error e => { code := 2, errors := "error: " ++ e.message ++ "\n" }
  | .ok .version => { output := version ++ "\n" }
  | .ok .help => { output := usage }
  | .ok (.run a) => run files a

end CatalogueViewer.CommandLine
