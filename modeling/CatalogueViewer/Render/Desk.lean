import CatalogueViewer.Render.Renderer
import CatalogueViewer.Render.Slot

/-!
# Concurrent submissions

A desk holds the slots that share one engine and the submissions that are under way.  A submission
waits out the debounce time, then for the first answer of the engine, then perhaps for a second one;
`act` takes a submission that is due as far as it gets without waiting.  A submission that is
overtaken, by a newer one on its slot or by a teardown, ends at once.
-/

namespace CatalogueViewer

/-- What a submission is waiting for. -/
inductive Stage where
  | debounce
  | first (reply : Reply)
  | second (reply : Reply)

/-- The number of waits that a submission in this stage can still have, this one included. -/
def Stage.waits : Stage → Nat
  | debounce => 3
  | first _ => 2
  | second _ => 1

structure Submission where
  number : Nat
  slot : Nat
  token : Nat
  source : String
  stage : Stage
  /-- The time at which the wait ends. -/
  due : Nat

structure Finished where
  number : Nat
  outcome : Outcome
  time : Nat
  deriving DecidableEq, Repr

/-- Slots that submit texts to one engine, and what became of each submission. -/
structure Desk where
  session : Session
  slots : List Slot
  underway : List Submission := []
  finished : List Finished := []
  submitted : Nat := 0

namespace Desk

variable (engine : Engine) (renderer : Renderer)

def setSlot (d : Desk) (i : Nat) (slot : Slot) : Desk := { d with slots := d.slots.set i slot }

def record (d : Desk) (number : Nat) (outcome : Outcome) : Desk :=
  { d with finished := d.finished ++ [⟨number, outcome, d.session.now⟩] }

/-- Some slot still waits for the submission. -/
def isCurrent (d : Desk) (s : Submission) : Bool :=
  match d.slots[s.slot]? with
  | none => false
  | some slot => slot.generation == s.token

/-- Ends the submissions that have been overtaken. -/
def dropStale (d : Desk) : Desk :=
  let stale := d.underway.filter fun s => !d.isCurrent s
  { d with
    underway := d.underway.filter d.isCurrent
    finished := d.finished ++ stale.map fun s => ⟨s.number, .superseded, d.session.now⟩ }

/-- Closes a slot, if there is one in this place. -/
def closeSlot (d : Desk) (i : Nat) : Desk :=
  match d.slots[i]? with
  | none => d
  | some slot => d.setSlot i slot.teardown

/-- Closes a slot and ends what is under way for it. -/
def teardown (d : Desk) (i : Nat) : Desk := (d.closeSlot i).dropStale

def commit (d : Desk) (s : Submission) (result : Result) : Desk :=
  match d.slots[s.slot]? with
  | none => d.record s.number .superseded
  | some slot =>
    let (outcome, slot) := slot.finish s.token result
    (d.setSlot s.slot slot).record s.number outcome

def await (d : Desk) (s : Submission) (stage : Stage) (time : Nat) : Desk :=
  { d with underway := d.underway ++ [{ s with stage := stage, due := d.session.now + time }] }

/-- What the engine did besides answering. -/
def applyReply (d : Desk) (reply : Reply) : Desk :=
  match reply.teardown with
  | none => d
  | some i => d.closeSlot i

def takeSecond (d : Desk) (s : Submission) (reply : Reply) : Desk :=
  (d.applyReply reply).commit s (Renderer.secondResult reply.answer)

/-- Takes the first answer and, if need be, calls the engine again. -/
def takeFirst (d : Desk) (s : Submission) (id : SlotId) (reply : Reply) : Desk :=
  let d := d.applyReply reply
  match Renderer.firstResult? reply.answer with
  | some result => d.commit s result
  | none =>
    let (reply, session) := Renderer.retry engine d.session id s.source
    let d := { d with session := session }
    if reply.delay = 0 then d.takeSecond s reply else d.await s (.second reply) reply.delay

def callEngine (d : Desk) (s : Submission) (id : SlotId) : Desk :=
  let (reply, session) := renderer.attempt engine d.session id s.source
  let d := { d with session := session }
  if reply.delay = 0 then d.takeFirst engine s id reply else d.await s (.first reply) reply.delay

/-- Takes a submission whose wait has ended as far as it gets; it is not under way meanwhile. -/
def act (d : Desk) (s : Submission) : Desk :=
  match d.slots[s.slot]? with
  | none => d
  | some slot =>
    match s.stage with
    | .debounce => d.callEngine engine renderer s slot.id
    | .first reply => d.takeFirst engine s slot.id reply
    | .second reply => d.takeSecond s reply

/-- The earlier of two submissions; of two at one time, the one with the lower number. -/
def earlier (s t : Submission) : Submission :=
  if t.due < s.due || (t.due == s.due && t.number < s.number) then t else s

/-- The submission whose wait ends first. -/
def next? : List Submission → Option Submission
  | [] => none
  | s :: rest => some (rest.foldl earlier s)

/-- The desk at a time, which does not run backwards. -/
def atTime (d : Desk) (time : Nat) : Desk :=
  { d with session := { d.session with now := max d.session.now time } }

def step (d : Desk) (s : Submission) : Desk :=
  let d := { d with underway := d.underway.filter fun t => t.number != s.number }
  ((d.atTime s.due).act engine renderer s).dropStale

/-- Goes on, for at most `steps` steps, with what is due by `limit`; without a limit, with
everything. -/
def runSteps (limit : Option Nat) : (steps : Nat) → Desk → Desk
  | 0, d => d
  | steps + 1, d =>
    match next? d.underway with
    | none => d
    | some s =>
      if limit.all (s.due ≤ ·) then runSteps limit steps (d.step engine renderer s) else d

/-- The number of steps that suffice for all that is under way. -/
def remaining (d : Desk) : Nat := d.underway.foldl (fun n s => n + s.stage.waits) 0

/-- Goes on with all that is due now. -/
def settle (d : Desk) : Desk := runSteps engine renderer (some d.session.now) d.remaining d

def start (d : Desk) (i : Nat) (text : String) : Desk :=
  let number := d.submitted
  let d := { d with submitted := number + 1 }
  match d.slots[i]? with
  | none => d.record number .superseded
  | some slot =>
    match slot.begin? with
    | none => d.record number .superseded
    | some (token, slot) =>
      let d := (d.setSlot i slot).dropStale
      let s : Submission := ⟨number, i, token, "", .debounce, d.session.now⟩
      match Diagram.prepare text with
      | .ready diagram => d.await { s with source := diagram.source } .debounce renderer.debounce
      | .noContent => d.commit s (.error noContent)
      | .rejected _ => d.commit s .invalid

/-- Starts a submission and goes on with all that is due now. -/
def submit (d : Desk) (i : Nat) (text : String) : Desk :=
  (d.start renderer i text).settle engine renderer

def advance (d : Desk) (time : Nat) : Desk :=
  let deadline := d.session.now + time
  (runSteps engine renderer (some deadline) d.remaining d).atTime deadline

/-- Goes on until every submission has ended. -/
def drain (d : Desk) : Desk := runSteps engine renderer none d.remaining d

end Desk

end CatalogueViewer
