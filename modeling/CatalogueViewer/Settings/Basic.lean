import CatalogueViewer.Engine.Settings
import CatalogueViewer.Json.Error
import CatalogueViewer.Json.Printer
import CatalogueViewer.Source.Files

/-!
# Viewer settings

The settings of a viewer, each with a default.  `override` lets values from the command line win.
-/

namespace CatalogueViewer

structure ViewerSettings where
  /-- How long a diagram waits for a newer text, in milliseconds. -/
  debounce : Nat := 200
  /-- The number of levels that a catalogue may have. -/
  maxDepth : Nat := 64
  engine : EngineSettings := {}
  /-- The deepest heading level of an outline. -/
  outlineLevel : Nat := 3
  deriving DecidableEq, Repr

/-- Why settings could not be loaded. -/
inductive SettingsError where
  | unreadable (path : String) (cause : ReadError)
  | invalid (path : String) (fault : Json.Error)
  deriving DecidableEq, Repr

/-- Every fault of a settings text has a place in it. -/
def SettingsError.message : SettingsError → String
  | unreadable path cause => "failed to read config " ++ path ++ ": " ++ cause.message
  | invalid path _ => "invalid config " ++ path ++ ": " ++ Json.faultAtPlace

namespace ViewerSettings

/-- The settings with the given values in place of their own. -/
def override (s : ViewerSettings) (debounce maxDepth : Option Nat) : ViewerSettings :=
  { s with debounce := debounce.getD s.debounce, maxDepth := maxDepth.getD s.maxDepth }

def engineJson (e : EngineSettings) : Json :=
  .obj
    [("start_on_load", .bool e.startOnLoad), ("theme", .str e.theme),
     ("security_level", .str e.securityLevel),
     ("theme_variables", .obj (e.themeVariables.map fun v => (v.1, .str v.2)))]

def toJson (s : ViewerSettings) : Json :=
  .obj
    [("render", .obj [("debounce_ms", .int s.debounce)]),
     ("tree", .obj [("max_depth", .int s.maxDepth)]),
     ("engine", engineJson s.engine),
     ("outline", .obj [("max_level", .int s.outlineLevel)])]

end ViewerSettings

end CatalogueViewer
