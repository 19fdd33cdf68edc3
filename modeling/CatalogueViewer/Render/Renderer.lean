import CatalogueViewer.Diagram.Candidate
import CatalogueViewer.Render.Result

/-!
# Renderers

A renderer takes a text through an engine: one attempt, and one more with every group title quoted
if the engine fails without blaming the source.  Renderers may share an engine; the first of them to
call it configures it.
-/

namespace CatalogueViewer

/-- What is known of an engine: the time, what happened to it, and how many attempts there were. -/
structure Session where
  now : Nat := 0
  events : List EngineEvent := []
  attempts : Nat := 0

structure Renderer where
  settings : EngineSettings := {}
  /-- How long a submission waits for a newer one, in milliseconds. -/
  debounce : Nat := 200

namespace Session

def isConfigured (s : Session) : Bool := s.events.any fun e => e.settings?.isSome

/-- Configures the engine, unless it has been done. -/
def configure (s : Session) (settings : EngineSettings) : Session :=
  if s.isConfigured then s else { s with events := s.events ++ [.configured settings] }

def calls (s : Session) : List Call := s.events.filterMap EngineEvent.call?

def themes (s : Session) : List String :=
  (s.events.filterMap EngineEvent.settings?).map EngineSettings.theme

/-- Calls the engine for a slot.  Attempts are numbered through all slots. -/
def call (s : Session) (engine : Engine) (slot : SlotId) (marker : String) (source : String) :
    Reply × Session :=
  let call : Call := ⟨slot.append ("-" ++ marker ++ toString s.attempts), source, s.now⟩
  (engine s.events call,
   { s with events := s.events ++ [.called call], attempts := s.attempts + 1 })

def elapse (s : Session) (time : Nat) : Session := { s with now := s.now + time }

end Session

namespace Renderer

/-- Calls the engine with a prepared source. -/
def attempt (r : Renderer) (engine : Engine) (s : Session) (slot : SlotId) (source : String) :
    Reply × Session :=
  (s.configure r.settings).call engine slot "" source

/-- Calls the engine with all group titles quoted. -/
def retry (engine : Engine) (s : Session) (slot : SlotId) (source : String) : Reply × Session :=
  s.call engine slot "fixed-" (String.ofList (Diagram.recover source.toList))

/-- The result of a first answer; `none` stands for another attempt. -/
def firstResult? : Except EngineError Drawing → Option Result
  | .ok drawing => some (.success drawing)
  | .error e => if e.blamesSource then some .invalid else none

/-- The result of a second answer. -/
def secondResult : Except EngineError Drawing → Result
  | .ok drawing => .success drawing
  | .error _ => .invalid

/-- Takes a prepared source through the engine. -/
def execute (r : Renderer) (engine : Engine) (s : Session) (slot : SlotId) (source : String) :
    Result × Session :=
  let (reply, s) := r.attempt engine s slot source
  let s := s.elapse reply.delay
  match firstResult? reply.answer with
  | some result => (result, s)
  | none =>
    let (reply, s) := retry engine s slot source
    (secondResult reply.answer, s.elapse reply.delay)

/-- Takes a text through the engine, if it needs one. -/
def render (r : Renderer) (engine : Engine) (s : Session) (slot : SlotId) (text : String) :
    Result × Session :=
  match Diagram.prepare text with
  | .ready diagram => r.execute engine s slot diagram.source
  | .noContent => (.error noContent, s)
  | .rejected _ => (.invalid, s)

end Renderer

end CatalogueViewer
