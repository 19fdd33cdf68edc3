import CatalogueViewer.Render.Desk

/-!
# Submissions in any order

A pool holds the slots, the engine and the submissions of a desk, but leaves every choice to a
scheduler: who goes on next, and when time passes.  A submission that has been overtaken stays in
the pool, and may even call the engine, until the scheduler lets it see the new generation.  Where
its engine work is over and the generation has changed, the scheduler also decides which of the two
it sees first.
-/

namespace CatalogueViewer

/-- How far a submission has come. -/
inductive Progress where
  /-- The text needs no engine; its result goes to the slot without a look at the generation. -/
  | settled (result : Result)
  | waiting (stage : Stage)
  /-- The engine work is over. -/
  | done (result : Result)

structure Job where
  number : Nat
  slot : Nat
  token : Nat
  renderer : Renderer
  source : String
  progress : Progress
  /-- The time at which the wait ends. -/
  due : Nat

/-- Slots that share one engine, and submissions that go on in any order. -/
structure Pool where
  session : Session := {}
  slots : List Slot
  jobs : List Job := []
  finished : List Finished := []
  submitted : Nat := 0

namespace Pool

inductive Move where
  | submit (slot : Nat) (renderer : Renderer) (text : String)
  | teardown (slot : Nat)
  /-- The submission, whose wait is over, goes on to the next one. -/
  | work (number : Nat)
  /-- The submission, which needs no engine, brings its result. -/
  | settle (number : Nat)
  /-- The submission ends: because its engine work is over, or because the generation has changed;
  `watchFirst` tells which it looks at first. -/
  | select (number : Nat) (watchFirst : Bool)
  | elapse (time : Nat)

/-- What slots and those who submitted notice. -/
inductive Event where
  | began (number slot : Nat)
  | tornDown (slot : Nat)
  | ended (number : Nat) (outcome : Outcome)
  deriving DecidableEq

variable (engine : Engine)

def job? (p : Pool) (number : Nat) : Option Job := p.jobs.find? fun j => j.number == number

def await (p : Pool) (j : Job) (progress : Progress) (time : Nat) : Pool :=
  { p with
    jobs := p.jobs.filter (fun k => k.number != j.number) ++
      [{ j with progress := progress, due := p.session.now + time }] }

def leave (p : Pool) (number : Nat) (outcome : Outcome) : Pool :=
  { p with
    jobs := p.jobs.filter fun k => k.number != number
    finished := p.finished ++ [⟨number, outcome, p.session.now⟩] }

def jobOf (number slot token : Nat) (renderer : Renderer) (text : String) (now : Nat) : Job :=
  match Diagram.prepare text with
  | .ready diagram =>
    ⟨number, slot, token, renderer, diagram.source, .waiting .debounce, now + renderer.debounce⟩
  | .noContent => ⟨number, slot, token, renderer, "", .settled (.error noContent), now⟩
  | .rejected _ => ⟨number, slot, token, renderer, "", .settled .invalid, now⟩

/-- A submission begins, or is refused by a closed slot. -/
def submit (p : Pool) (i : Nat) (slot : Slot) (renderer : Renderer) (text : String) :
    List Event × Pool :=
  let number := p.submitted
  let p := { p with submitted := number + 1 }
  match slot.begin? with
  | none => ([.ended number .superseded], p.leave number .superseded)
  | some (token, slot) =>
    ([.began number i],
      { p with
        slots := p.slots.set i slot
        jobs := p.jobs ++ [jobOf number i token renderer text p.session.now] })

def closeSlot (p : Pool) (i : Nat) : List Event × Pool :=
  match p.slots[i]? with
  | none => ([], p)
  | some slot => ([.tornDown i], { p with slots := p.slots.set i slot.teardown })

/-- What the engine did besides answering. -/
def applyReply (p : Pool) (reply : Reply) : List Event × Pool :=
  match reply.teardown with
  | none => ([], p)
  | some i => p.closeSlot i

def callEngine (p : Pool) (j : Job) (id : SlotId) : Pool :=
  let (reply, session) := j.renderer.attempt engine p.session id j.source
  { p with session := session }.await j (.waiting (.first reply)) reply.delay

def takeFirst (p : Pool) (j : Job) (id : SlotId) (answer : Except EngineError Drawing) : Pool :=
  match Renderer.firstResult? answer with
  | some result => p.await j (.done result) 0
  | none =>
    let (reply, session) := Renderer.retry engine p.session id j.source
    { p with session := session }.await j (.waiting (.second reply)) reply.delay

/-- A submission whose wait is over goes on. -/
def work? (p : Pool) (j : Job) (id : SlotId) : Option (List Event × Pool) :=
  if p.session.now < j.due then none
  else
    match j.progress with
    | .waiting .debounce => some ([], p.callEngine engine j id)
    | .waiting (.first reply) =>
      let (events, p) := p.applyReply reply
      some (events, p.takeFirst engine j id reply.answer)
    | .waiting (.second reply) =>
      let (events, p) := p.applyReply reply
      some (events, p.await j (.done (Renderer.secondResult reply.answer)) 0)
    | .settled _ | .done _ => none

def bring (p : Pool) (j : Job) (slot : Slot) (result : Result) : List Event × Pool :=
  let (outcome, slot) := slot.finish j.token result
  ([.ended j.number outcome],
    { p with slots := p.slots.set j.slot slot }.leave j.number outcome)

def settle? (p : Pool) (j : Job) (slot : Slot) : Option (List Event × Pool) :=
  match j.progress with
  | .settled result => some (p.bring j slot result)
  | .waiting _ | .done _ => none

def bring? (p : Pool) (j : Job) (slot : Slot) : Option (List Event × Pool) :=
  match j.progress with
  | .done result => some (p.bring j slot result)
  | .settled _ | .waiting _ => none

/-- A submission that watches the generation ends because it has changed. -/
def abandon? (p : Pool) (j : Job) (slot : Slot) : Option (List Event × Pool) :=
  match j.progress with
  | .settled _ => none
  | .waiting _ | .done _ =>
    if slot.generation = j.token then none
    else some ([.ended j.number .superseded], p.leave j.number .superseded)

/-- The first of the two ends that has come, looked for in the given order. -/
def select? (p : Pool) (j : Job) (slot : Slot) (watchFirst : Bool) :
    Option (List Event × Pool) :=
  if watchFirst then (p.abandon? j slot).or (p.bring? j slot)
  else (p.bring? j slot).or (p.abandon? j slot)

def jobWithSlot? (p : Pool) (number : Nat) : Option (Job × Slot) := do
  let j ← p.job? number
  let slot ← p.slots[j.slot]?
  return (j, slot)

/-- The pool after a move, with what happened, if the move is possible. -/
def step? (p : Pool) : Move → Option (List Event × Pool)
  | .submit i renderer text => p.slots[i]?.map fun slot => p.submit i slot renderer text
  | .teardown i => some (p.closeSlot i)
  | .work number => (p.jobWithSlot? number).bind fun (j, slot) => p.work? engine j slot.id
  | .settle number => (p.jobWithSlot? number).bind fun (j, slot) => p.settle? j slot
  | .select number watchFirst =>
    (p.jobWithSlot? number).bind fun (j, slot) => p.select? j slot watchFirst
  | .elapse time => some ([], { p with session := p.session.elapse time })

def run? (p : Pool) : List Move → Option (List Event × Pool)
  | [] => some ([], p)
  | m :: rest => do
    let (first, p) ← p.step? engine m
    let (more, p) ← p.run? rest
    return (first ++ more, p)

end Pool

end CatalogueViewer
