import CatalogueViewer.Proofs.Render.Effects

/-!
# The calls of an engine

Only the work on a submission calls the engine, and only `elapse` lets time pass: `step?_session`.
-/

namespace CatalogueViewer

namespace Session

theorem calls_configure (s : Session) (settings : EngineSettings) :
    (s.configure settings).calls = s.calls := by
  unfold configure
  split
  · rfl
  · simp [calls, EngineEvent.call?]

theorem calls_call (engine : Engine) (s : Session) (slot : SlotId) (marker source : String) :
    (s.call engine slot marker source).2.calls =
      s.calls ++ [⟨slot.append ("-" ++ marker ++ toString s.attempts), source, s.now⟩] := by
  simp [call, calls, EngineEvent.call?]

theorem now_configure (s : Session) (settings : EngineSettings) :
    (s.configure settings).now = s.now := by
  unfold configure
  split <;> rfl

/-- The engine is called for some source, for the first or for the second time. -/
inductive Attempted (engine : Engine) (s : Session) : Session → Prop where
  | first (r : Renderer) (id : SlotId) (source : String) :
      Attempted engine s (r.attempt engine s id source).2
  | second (id : SlotId) (source : String) :
      Attempted engine s (Renderer.retry engine s id source).2

variable {engine : Engine} {s t : Session}

theorem Attempted.now (attempted : Attempted engine s t) : t.now = s.now := by
  cases attempted with
  | first r id source => exact now_configure s r.settings
  | second => rfl

theorem attempts_configure (s : Session) (settings : EngineSettings) :
    (s.configure settings).attempts = s.attempts := by
  unfold configure
  split <;> rfl

/-- It is one call, and the name of the attempt ends in its number. -/
theorem Attempted.exists_call (attempted : Attempted engine s t) :
    ∃ call stem, t.calls = s.calls ++ [call] ∧ t.attempts = s.attempts + 1 ∧
      call.attempt.text = stem ++ "-" ++ toString s.attempts := by
  cases attempted with
  | first r id source =>
    have counted := attempts_configure s r.settings
    refine ⟨_, id.text, (calls_call ..).trans (by rw [calls_configure]), ?_, ?_⟩
    · rw [← counted]
      rfl
    · rw [counted]
      simp [Id.append, String.append_assoc]
  | second id source =>
    refine ⟨_, id.text ++ "-fixed", calls_call .., rfl, ?_⟩
    simp only [Id.append, String.append_assoc]
    rfl

end Session

namespace Pool

variable {engine : Engine} {p q : Pool} {j : Job} {id : SlotId} {slot : Slot} {m : Move}
  {events : List Event}

/-- Everything that a move can do to the session. -/
inductive SessionEffect (engine : Engine) (s : Session) : Move → Session → Prop where
  | nothing (m : Move) : SessionEffect engine s m s
  | elapsed (time : Nat) : SessionEffect engine s (.elapse time) (s.elapse time)
  | called (number : Nat) {t : Session} (attempted : s.Attempted engine t) :
      SessionEffect engine s (.work number) t

theorem SessionEffect.calls {s t : Session} (effect : SessionEffect engine s m t)
    (idle : ∀ number, m ≠ .work number) : t.calls = s.calls := by
  cases effect with
  | nothing => rfl
  | elapsed => rfl
  | called number => exact absurd rfl (idle number)

theorem SessionEffect.now {s t : Session} (effect : SessionEffect engine s m t)
    (still : ∀ time, m ≠ .elapse time) : t.now = s.now := by
  cases effect with
  | nothing => rfl
  | elapsed time => exact absurd rfl (still time)
  | called number attempted => exact attempted.now

theorem MayClose.session {r : Pool} (change : MayClose p (events, r)) : r.session = p.session := by
  cases change <;> rfl

theorem session_submit (p : Pool) (i : Nat) (slot : Slot) (renderer : Renderer) (text : String) :
    (p.submit i slot renderer text).2.session = p.session := by
  unfold submit
  cases slot.begin? <;> rfl

/-- Work is done when a wait is over, and which work depends on the wait. -/
theorem work?_cases (worked : p.work? engine j id = some (events, q)) :
    j.due ≤ p.session.now ∧
      ((j.progress = .waiting .debounce ∧ events = [] ∧ q = p.callEngine engine j id) ∨
        (∃ reply r, j.progress = .waiting (.first reply) ∧ p.applyReply reply = (events, r) ∧
          q = r.takeFirst engine j id reply.answer) ∨
        ∃ reply r, j.progress = .waiting (.second reply) ∧ p.applyReply reply = (events, r) ∧
          q = r.await j (.done (Renderer.secondResult reply.answer)) 0) := by
  unfold work? at worked
  split at worked
  · cases worked
  · next waited =>
    refine ⟨Nat.not_lt.mp waited, ?_⟩
    split at worked
    · next stage =>
      cases worked
      exact Or.inl ⟨stage, rfl, rfl⟩
    · next reply stage =>
      obtain ⟨first, last⟩ := Prod.mk.inj (Option.some.inj worked)
      exact Or.inr (Or.inl ⟨reply, (p.applyReply reply).2, stage,
        Prod.ext first rfl, last.symm⟩)
    · next reply stage =>
      obtain ⟨first, last⟩ := Prod.mk.inj (Option.some.inj worked)
      exact Or.inr (Or.inr ⟨reply, (p.applyReply reply).2, stage,
        Prod.ext first rfl, last.symm⟩)
    · cases worked
    · cases worked

theorem session_takeFirst (p : Pool) (j : Job) (id : SlotId)
    (answer : Except EngineError Drawing) :
    (p.takeFirst engine j id answer).session =
      if Renderer.firstResult? answer = none then (Renderer.retry engine p.session id j.source).2
      else p.session := by
  unfold takeFirst
  cases Renderer.firstResult? answer with
  | none => rfl
  | some result => rfl

theorem work?_session (worked : p.work? engine j id = some (events, q)) :
    SessionEffect engine p.session (.work j.number) q.session := by
  obtain ⟨-, ⟨-, -, rfl⟩ | ⟨reply, r, -, applied, rfl⟩ | ⟨reply, r, -, applied, rfl⟩⟩ :=
    work?_cases worked
  · exact .called j.number (.first j.renderer id j.source)
  · have change := applyReply_mayClose p reply
    rw [applied] at change
    rw [session_takeFirst, change.session]
    split
    · exact .called j.number (.second id j.source)
    · exact .nothing _
  · have change := applyReply_mayClose p reply
    rw [applied] at change
    exact change.session ▸ .nothing _

theorem session_settle? (settled : p.settle? j slot = some (events, q)) :
    q.session = p.session := by
  unfold settle? at settled
  split at settled
  · cases settled
    rfl
  · cases settled
  · cases settled

theorem session_bring? (brought : p.bring? j slot = some (events, q)) : q.session = p.session := by
  unfold bring? at brought
  split at brought
  · cases brought
    rfl
  · cases brought
  · cases brought

theorem session_abandon? (abandoned : p.abandon? j slot = some (events, q)) :
    q.session = p.session := by
  unfold abandon? at abandoned
  split at abandoned
  · cases abandoned
  all_goals
    obtain ⟨-, same⟩ := Option.ite_none_left_eq_some.mp abandoned
    cases same
    rfl

theorem step?_session (step : p.step? engine m = some (events, q)) :
    SessionEffect engine p.session m q.session := by
  have unchanged (same : q.session = p.session) : SessionEffect engine p.session m q.session :=
    same ▸ .nothing m
  cases m with
  | submit i renderer text =>
    obtain ⟨slot, found, same⟩ := Option.map_eq_some_iff.mp step
    have kept := session_submit p i slot renderer text
    rw [same] at kept
    exact unchanged kept
  | teardown i =>
    have change := closeSlot_mayClose p i
    rw [Option.some.inj step] at change
    exact unchanged change.session
  | work number =>
    obtain ⟨⟨j, slot⟩, found, worked⟩ := Option.bind_eq_some_iff.mp step
    obtain ⟨_, rfl, _⟩ := jobWithSlot?_eq_some found
    exact work?_session worked
  | settle number =>
    obtain ⟨⟨j, slot⟩, found, settled⟩ := Option.bind_eq_some_iff.mp step
    exact unchanged (session_settle? settled)
  | select number watchFirst =>
    obtain ⟨⟨j, slot⟩, found, selected⟩ := Option.bind_eq_some_iff.mp step
    rcases select?_cases selected with brought | abandoned
    · exact unchanged (session_bring? brought)
    · exact unchanged (session_abandon? abandoned)
  | elapse time =>
    cases step
    exact .elapsed time

end Pool

end CatalogueViewer
