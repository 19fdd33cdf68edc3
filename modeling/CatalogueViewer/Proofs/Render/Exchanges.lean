import CatalogueViewer.Proofs.Text.Unifying
import CatalogueViewer.Render.Renderer

/-!
# What an engine is asked

Any number of renderers may share an engine, and the engine may answer each call as it likes.  It is
configured at most once, before its first call, and each text costs it at most two calls:
`serveAll_exchanges`.
-/

namespace CatalogueViewer

namespace Session

/-- A text for one of the renderers. -/
structure Request where
  renderer : Renderer
  slot : SlotId
  text : String

def serve (engine : Engine) (s : Session) (r : Request) : Result × Session :=
  r.renderer.render engine s r.slot r.text

def serveAll (engine : Engine) (s : Session) : List Request → List Result × Session
  | [] => ([], s)
  | r :: rest =>
    let first := s.serve engine r
    let later := first.2.serveAll engine rest
    (first.1 :: later.1, later.2)

def Request.candidate (r : Request) : List Char := Diagram.unify r.text.toList

/-- The call is the first one for a text that is a diagram. -/
structure Asks (r : Request) (call : Call) : Prop where
  isDiagram : ∃ kind, Diagram.prevalidate r.candidate = .ok kind
  source : call.source = String.ofList (Diagram.normalize r.candidate)

/-- The call is the second one, after `call` has failed with `e`. -/
structure AsksAgain (call : Call) (e : EngineError) (again : Call) : Prop where
  failsItself : e.blamesSource = false
  source : again.source = String.ofList (Diagram.recover call.source.toList)

/-- The calls that a text may lead to after the events in `past`, with the result. -/
inductive Exchange (engine : Engine) (past : List EngineEvent) (r : Request) :
    List Call → Result → Prop where
  | blank (blank : Text.isBlankText r.text.toList = true) :
      Exchange engine past r [] (.error noContent)
  | refused (visible : Text.isBlankText r.text.toList = false) {reason : Diagram.Rejection}
      (rejected : Diagram.prevalidate r.candidate = .error reason) :
      Exchange engine past r [] .invalid
  | drawn {call : Call} {drawing : Drawing} (asks : Asks r call)
      (answer : (engine past call).answer = .ok drawing) :
      Exchange engine past r [call] (.success drawing)
  | blamed {call : Call} {e : EngineError} (asks : Asks r call)
      (answer : (engine past call).answer = .error e) (blames : e.blamesSource = true) :
      Exchange engine past r [call] .invalid
  | repaired {call again : Call} {e : EngineError} {drawing : Drawing} (asks : Asks r call)
      (answer : (engine past call).answer = .error e) (asksAgain : AsksAgain call e again)
      (second : (engine (past ++ [.called call]) again).answer = .ok drawing) :
      Exchange engine past r [call, again] (.success drawing)
  | givenUp {call again : Call} {e f : EngineError} (asks : Asks r call)
      (answer : (engine past call).answer = .error e) (asksAgain : AsksAgain call e again)
      (second : (engine (past ++ [.called call]) again).answer = .error f) :
      Exchange engine past r [call, again] .invalid

/-- One exchange after the other, with the calls for each text. -/
inductive Exchanges (engine : Engine) :
    List EngineEvent → List Request → List (List Call) → List Result → Prop where
  | nil (past : List EngineEvent) : Exchanges engine past [] [] []
  | cons {past : List EngineEvent} {r : Request} {rest : List Request} {calls : List Call}
      {later : List (List Call)} {result : Result} {results : List Result}
      (first : Exchange engine past r calls result)
      (others : Exchanges engine (past ++ calls.map .called) rest later results) :
      Exchanges engine past (r :: rest) (calls :: later) (result :: results)

def Request.needsEngine (r : Request) : Bool := (Diagram.prepare r.text).settled?.isNone

/-- The settings of the first renderer that calls the engine. -/
def callerSettings? (requests : List Request) : Option EngineSettings :=
  (requests.find? Request.needsEngine).map fun r => r.renderer.settings

/-- The events by which requests configure an engine that has been through a session. -/
def opening (s : Session) (requests : List Request) : List EngineEvent :=
  if s.isConfigured then [] else (callerSettings? requests).toList.map .configured

variable {engine : Engine} {s : Session} {r : Request}

theorem Exchange.result_ne_loading {past : List EngineEvent} {calls : List Call} {result : Result}
    (exchange : Exchange engine past r calls result) : result ≠ .loading := by
  cases exchange <;> intro same <;> cases same

theorem Exchanges.loading_notMem {past : List EngineEvent} {requests : List Request}
    {calls : List (List Call)} {results : List Result}
    (exchanges : Exchanges engine past requests calls results) : .loading ∉ results := by
  induction exchanges with
  | nil past => exact List.not_mem_nil
  | cons first _ ih =>
    intro member
    rcases List.mem_cons.mp member with same | later
    · exact first.result_ne_loading same.symm
    · exact ih later

/-! ### One text -/

theorem events_call (engine : Engine) (s : Session) (slot : SlotId) (marker source : String) :
    ∃ call, call.source = source ∧ (s.call engine slot marker source).1 = engine s.events call ∧
      (s.call engine slot marker source).2.events = s.events ++ [.called call] :=
  ⟨_, rfl, rfl, rfl⟩

theorem execute_exchange (engine : Engine) (s : Session) (r : Request) {kind : Diagram.Kind}
    (isDiagram : Diagram.prevalidate r.candidate = .ok kind) {source : String}
    (normal : source = String.ofList (Diagram.normalize r.candidate)) :
    let past := (s.configure r.renderer.settings).events
    let served := r.renderer.execute engine s r.slot source
    ∃ calls, Exchange engine past r calls served.1 ∧
      served.2.events = past ++ calls.map .called := by
  dsimp only
  obtain ⟨call, called, replied, after⟩ :=
    events_call engine (s.configure r.renderer.settings) r.slot "" source
  have asks : Asks r call := ⟨⟨kind, isDiagram⟩, called.trans normal⟩
  rw [Renderer.execute, Renderer.attempt]
  generalize (s.configure r.renderer.settings).events = past at replied after ⊢
  generalize (s.configure r.renderer.settings).call engine r.slot "" source = attempt
    at replied after ⊢
  obtain ⟨reply, t⟩ := attempt
  dsimp only at replied after ⊢
  subst replied
  cases answer : (engine past call).answer with
  | ok drawing => exact ⟨[call], .drawn asks answer, after⟩
  | error e =>
    rw [Renderer.firstResult?]
    cases blames : e.blamesSource with
    | true => exact ⟨[call], .blamed asks answer blames, after⟩
    | false =>
      obtain ⟨again, calledAgain, repliedAgain, afterwards⟩ :=
        events_call engine (t.elapse (engine past call).delay) r.slot "fixed-"
          (String.ofList (Diagram.recover source.toList))
      have asksAgain : AsksAgain call e again := ⟨blames, by rw [calledAgain, called]⟩
      have past' : (t.elapse (engine past call).delay).events = past ++ [.called call] := after
      rw [past'] at repliedAgain afterwards
      have calls : past ++ [.called call] ++ [.called again] =
          past ++ [call, again].map EngineEvent.called := List.append_assoc ..
      refine ⟨[call, again], ?_, afterwards.trans calls⟩
      dsimp only [Renderer.retry]
      rw [if_neg Bool.false_ne_true, repliedAgain]
      cases second : (engine (past ++ [.called call]) again).answer with
      | ok drawing => exact .repaired asks answer asksAgain second
      | error f => exact .givenUp asks answer asksAgain second

theorem exchange_of_settled (engine : Engine) (s : Session) {result : Result}
    (settled : (Diagram.prepare r.text).settled? = some result) (past : List EngineEvent) :
    Exchange engine past r [] result ∧ s.serve engine r = (result, s) := by
  rw [serve, Renderer.render]
  unfold Diagram.prepare at settled ⊢
  dsimp only at settled ⊢
  split at settled
  · next nothing =>
    cases settled
    have blank := (Diagram.unify_eq_nil_iff r.text.toList).mp (List.isEmpty_iff.mp nothing)
    rw [if_pos nothing]
    exact ⟨.blank blank, rfl⟩
  · next something =>
    have visible : Text.isBlankText r.text.toList = false := by
      rw [List.isEmpty_iff, Diagram.unify_eq_nil_iff] at something
      exact Bool.eq_false_iff.mpr something
    rw [if_neg something]
    cases checked : Diagram.prevalidate (Diagram.unify r.text.toList) with
    | ok kind => rw [checked] at settled; cases settled
    | error reason =>
      rw [checked] at settled
      cases settled
      exact ⟨.refused visible checked, rfl⟩

theorem exchange_of_ready (engine : Engine) (s : Session)
    (ready : (Diagram.prepare r.text).settled? = none) :
    let past := (s.configure r.renderer.settings).events
    ∃ calls, Exchange engine past r calls (s.serve engine r).1 ∧
      (s.serve engine r).2.events = past ++ calls.map .called := by
  rw [serve, Renderer.render]
  unfold Diagram.prepare at ready ⊢
  dsimp only at ready ⊢
  split at ready
  · cases ready
  · next something =>
    rw [if_neg something]
    cases checked : Diagram.prevalidate (Diagram.unify r.text.toList) with
    | ok kind => exact execute_exchange engine s r checked rfl
    | error reason => rw [checked] at ready; cases ready

/-! ### Many texts -/

theorem isConfigured_configure (s : Session) (settings : EngineSettings) :
    (s.configure settings).isConfigured = true := by
  unfold configure
  split
  · assumption
  · simp [isConfigured, EngineEvent.settings?]

theorem opening_of_configured (configured : s.isConfigured = true) (requests : List Request) :
    s.opening requests = [] := if_pos configured

/-- A text that needs no engine leaves the configuration to those after it. -/
theorem opening_of_settled {result : Result}
    (settled : (Diagram.prepare r.text).settled? = some result) (rest : List Request) :
    s.opening (r :: rest) = s.opening rest := by
  have idle : ¬ r.needsEngine = true := by simp [Request.needsEngine, settled]
  rw [opening, opening, callerSettings?, List.find?_cons_of_neg idle]
  rfl

theorem configure_eq_opening (ready : (Diagram.prepare r.text).settled? = none)
    (rest : List Request) :
    (s.configure r.renderer.settings).events = s.events ++ s.opening (r :: rest) := by
  have needs : r.needsEngine = true := by simp [Request.needsEngine, ready]
  rw [opening, callerSettings?, List.find?_cons_of_pos needs, configure]
  split <;> simp

theorem serveAll_events (engine : Engine) (s : Session) (requests : List Request) :
    ∃ calls, Exchanges engine (s.events ++ s.opening requests) requests calls
        (s.serveAll engine requests).1 ∧
      (s.serveAll engine requests).2.events =
        s.events ++ s.opening requests ++ calls.flatten.map .called := by
  induction requests generalizing s with
  | nil =>
    refine ⟨[], .nil _, ?_⟩
    have none : s.opening [] = [] := by unfold opening; split <;> rfl
    simp [serveAll, none]
  | cons r rest ih =>
    cases prepared : (Diagram.prepare r.text).settled? with
    | some result =>
      obtain ⟨exchange, served⟩ :=
        exchange_of_settled engine s prepared (s.events ++ s.opening rest)
      obtain ⟨calls, exchanges, events⟩ := ih s
      refine ⟨[] :: calls, ?_, ?_⟩
      · rw [opening_of_settled prepared, serveAll, served]
        exact .cons exchange (by simpa using exchanges)
      · rw [opening_of_settled prepared, serveAll, served]
        exact events
    | none =>
      obtain ⟨calls, exchange, events⟩ := exchange_of_ready engine s prepared
      have configured : (s.serve engine r).2.isConfigured = true := by
        have before := isConfigured_configure s r.renderer.settings
        rw [isConfigured] at before ⊢
        rw [events, List.any_append, before, Bool.true_or]
      obtain ⟨later, exchanges, afterwards⟩ := ih (s.serve engine r).2
      rw [opening_of_configured configured, List.append_nil, events] at exchanges afterwards
      rw [← configure_eq_opening prepared]
      refine ⟨calls :: later, .cons exchange exchanges, ?_⟩
      rw [List.flatten_cons, List.map_append, ← List.append_assoc]
      exact afterwards

/-- However many renderers share a new engine, and whatever it answers: it is configured at most
once, by the first renderer that calls it, and its calls are those of one exchange for each text. -/
theorem serveAll_exchanges (engine : Engine) (now attempts : Nat) (requests : List Request) :
    ∃ calls results after,
      serveAll engine ⟨now, [], attempts⟩ requests = (results, after) ∧
      after.events = (callerSettings? requests).toList.map .configured ++
        calls.flatten.map .called ∧
      Exchanges engine ((callerSettings? requests).toList.map .configured) requests calls
        results ∧
      .loading ∉ results := by
  obtain ⟨calls, exchanges, events⟩ := serveAll_events engine ⟨now, [], attempts⟩ requests
  exact ⟨calls, _, _, rfl, events, exchanges, exchanges.loading_notMem⟩

end Session

end CatalogueViewer
