import CatalogueViewer.Proofs.Render.Exchanges
import CatalogueViewer.Proofs.Render.Sessions
import CatalogueViewer.Proofs.Text.Numbered

/-!
# The names of attempts

An attempt is named after its slot, with a number at the end that is counted through a process.  A
slot may be called like an attempt, but the digits behind the last dash of a name are the number of
the attempt, so no two calls in a process are named alike: `Process.nodup_attempts`.
-/

namespace CatalogueViewer

/-! ### One call -/

/-- The name of the attempt ends in this number. -/
def Call.Numbered (call : Call) (n : Nat) : Prop :=
  ∃ stem, call.attempt.text = stem ++ "-" ++ toString n

theorem Call.Numbered.unique {call other : Call} {m n : Nat} (numbered : call.Numbered m)
    (numbered' : other.Numbered n) (same : call.attempt = other.attempt) : m = n := by
  obtain ⟨stem, text⟩ := numbered
  obtain ⟨stem', text'⟩ := numbered'
  rw [same, text'] at text
  exact (numbered_inj text).2.symm

namespace Session

variable {engine : Engine} {s t : Session}

/-- What becomes of a session in the next moment.  Other engines count their attempts with the same
counter. -/
inductive Step (engine : Engine) (s : Session) : Session → Prop where
  | attempted {t : Session} (attempted : s.Attempted engine t) : Step engine s t
  | elapsed (time : Nat) : Step engine s (s.elapse time)
  | elsewhere {attempts : Nat} (later : s.attempts ≤ attempts) :
      Step engine s { s with attempts := attempts }

/-- What can become of a session. -/
abbrev Grows (engine : Engine) : Session → Session → Prop := Relation.ReflTransGen (Step engine)

theorem grows_execute (r : Renderer) (s : Session) (id : SlotId) (source : String) :
    Grows engine s (r.execute engine s id source).2 := by
  have first : Grows engine s (r.attempt engine s id source).2 :=
    .single (.attempted (.first r id source))
  unfold Renderer.execute
  dsimp only
  generalize r.attempt engine s id source = attempt at first ⊢
  have waited := first.tail (.elapsed attempt.1.delay)
  cases Renderer.firstResult? attempt.1.answer with
  | some result => exact waited
  | none => exact (waited.tail (.attempted (.second id source))).tail (.elapsed _)

/-- A renderer that is given a text calls its engine in this way. -/
theorem grows_serve (s : Session) (r : Request) : Grows engine s (s.serve engine r).2 := by
  unfold serve Renderer.render
  split
  · exact grows_execute ..
  · exact .refl
  · exact .refl

end Session

namespace Pool

variable {engine : Engine} {p q : Pool} {m : Move}

theorem SessionEffect.grows {s t : Session} (effect : SessionEffect engine s m t) :
    s.Grows engine t := by
  cases effect with
  | nothing => exact .refl
  | elapsed time => exact .single (.elapsed time)
  | called number attempted => exact .single (.attempted attempted)

/-- The submissions of a pool call the engine in this way, whatever order they go on in. -/
theorem Leads.grows (leads : Leads engine p q) : p.session.Grows engine q.session :=
  leads.steps (P := fun q => p.session.Grows engine q.session)
    (fun _ _ _ _ step before => before.trans (step?_session step).grows) .refl

end Pool

/-! ### All calls of a process -/

/-- The sessions of the engines in a process, and the number of the next attempt. -/
structure Process where
  sessions : List Session := []
  attempts : Nat := 0

namespace Process

variable {p q : Process}

def calls (p : Process) : List Call := p.sessions.flatMap Session.calls

/-- An engine is made, or one of those that there are is used. -/
inductive Step : Process → Process → Prop where
  | makes (p : Process) {s : Session} (unused : s.calls = []) :
      Step p { p with sessions := p.sessions ++ [s] }
  | uses {before after : List Session} {s t : Session} {attempts : Nat} (engine : Engine)
      (step : Session.Step engine { s with attempts := attempts } t) :
      Step ⟨before ++ s :: after, attempts⟩ ⟨before ++ t :: after, t.attempts⟩

/-- A process that has begun without any engine. -/
abbrev Reached (p : Process) : Prop := Relation.ReflTransGen Step {} p

/-- Each call has got a number from the counter, and no two calls are named alike. -/
structure Distinct (p : Process) : Prop where
  numbered : ∀ call ∈ p.calls, ∃ n < p.attempts, call.Numbered n
  names : (p.calls.map Call.attempt).Nodup

theorem calls_replace {before after : List Session} {s t : Session} {m n : Nat} {more : List Call}
    (calls : t.calls = s.calls ++ more) :
    (Process.calls ⟨before ++ t :: after, n⟩).Perm
      (more ++ Process.calls ⟨before ++ s :: after, m⟩) := by
  simp only [Process.calls, List.flatMap_append, List.flatMap_cons, calls]
  rw [List.append_assoc]
  exact ((List.perm_append_comm_assoc _ _ _).append_left _).trans
    (List.perm_append_comm_assoc _ _ _)

theorem Distinct.same {p q : Process} (distinct : p.Distinct) (calls : q.calls.Perm p.calls)
    (later : p.attempts ≤ q.attempts) : q.Distinct where
  numbered := by
    intro call member
    obtain ⟨n, bound, numbered⟩ := distinct.numbered call (calls.mem_iff.mp member)
    exact ⟨n, Nat.lt_of_lt_of_le bound later, numbered⟩
  names := (calls.map Call.attempt).nodup_iff.mpr distinct.names

theorem Distinct.call {p q : Process} (distinct : p.Distinct) {call : Call}
    (calls : q.calls.Perm ([call] ++ p.calls)) (numbered : call.Numbered p.attempts)
    (next : q.attempts = p.attempts + 1) : q.Distinct where
  numbered := by
    intro other member
    rcases List.mem_cons.mp (calls.mem_iff.mp member) with rfl | old
    · exact ⟨p.attempts, by omega, numbered⟩
    · obtain ⟨n, bound, numbered⟩ := distinct.numbered other old
      exact ⟨n, by omega, numbered⟩
  names := by
    refine (calls.map Call.attempt).nodup_iff.mpr (List.nodup_cons.mpr ⟨?_, distinct.names⟩)
    intro again
    obtain ⟨other, old, same⟩ := List.mem_map.mp again
    obtain ⟨n, bound, numbered'⟩ := distinct.numbered other old
    have equal := numbered'.unique numbered same
    omega

theorem Step.distinct (step : Step p q) (distinct : p.Distinct) : q.Distinct := by
  cases step with
  | makes s unused =>
    refine distinct.same (.of_eq ?_) (Nat.le_refl _)
    simp [Process.calls, unused]
  | @uses before after s t attempts engine step =>
    cases step with
    | attempted attempted =>
      obtain ⟨call, stem, calls, next, name⟩ := attempted.exists_call
      exact distinct.call (calls_replace calls) ⟨stem, name⟩ next
    | elapsed time =>
      have same : Session.calls ({ s with attempts := attempts }.elapse time) = s.calls ++ [] :=
        (List.append_nil _).symm
      exact distinct.same (calls_replace same) (Nat.le_refl _)
    | @elsewhere n later =>
      have same : Session.calls { s with attempts := n } = s.calls ++ [] :=
        (List.append_nil _).symm
      exact distinct.same (calls_replace same) later

/-- No two calls in a process have an attempt id in common, whichever engines and slots they are
for. -/
theorem nodup_attempts (reached : Reached p) : (p.calls.map Call.attempt).Nodup := by
  have distinct : p.Distinct := by
    induction reached with
    | refl => exact ⟨fun _ member => (by cases member), .nil⟩
    | tail _ step before => exact step.distinct before
  exact distinct.names

end Process

end CatalogueViewer
