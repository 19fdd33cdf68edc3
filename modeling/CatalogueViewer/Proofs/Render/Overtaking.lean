import CatalogueViewer.Proofs.Render.PoolHistory
import CatalogueViewer.Proofs.Render.Submissions

/-!
# Submissions that have been overtaken

A submission that has been overtaken is woken, and ends when the scheduler lets it look at the
generation of its slot.  The clock of a cooperative scheduler goes on only when nobody can go on, so
by then all who were overtaken have looked: `Idle.rests`.
-/

namespace CatalogueViewer

theorem length_le_one {α : Type} {xs : List α} (distinct : xs.Nodup)
    (same : ∀ x ∈ xs, ∀ y ∈ xs, x = y) : xs.length ≤ 1 := by
  match xs with
  | [] => exact Nat.zero_le 1
  | [x] => exact Nat.le_refl 1
  | x :: y :: rest =>
    have equal := same x (by simp) y (by simp)
    simp [equal] at distinct

namespace Pool

variable {engine : Engine} {p q : Pool} {j : Job} {i : Nat} {slot : Slot}

/-! ### Submissions that have been overtaken -/

/-- The slot of the submission has got a new generation since it began. -/
def isOvertaken (p : Pool) (j : Job) : Bool :=
  match p.slots[j.slot]? with
  | none => false
  | some slot => slot.generation != j.token

/-- Whoever was overtaken has seen it.  Only then does time pass. -/
def Rests (p : Pool) : Prop := ∀ j ∈ p.jobs, p.isOvertaken j = false

theorem isOvertaken_iff (found : p.slots[j.slot]? = some slot) :
    p.isOvertaken j = true ↔ slot.generation ≠ j.token := by
  simp [isOvertaken, found]

def submissions (p : Pool) (i : Nat) : List Job := p.jobs.filter fun j => j.slot == i

/-- The submissions to a slot that nothing has overtaken. -/
def current (p : Pool) (i : Nat) : List Job := (p.submissions i).filter fun j => !p.isOvertaken j

/-- Two submissions that nothing has overtaken hold the same token, so they are the same. -/
theorem length_current_le {h : SlotHistory} (orderly : Orderly p) (follows : Follows h i p) :
    (p.current i).length ≤ 1 := by
  have distinct : p.jobs.Nodup := .of_map Job.number orderly.distinct
  have held {j : Job} (member : j ∈ p.current i) :
      j ∈ p.jobs ∧ j.slot = i ∧ h.slot.generation = j.token := by
    obtain ⟨named, fresh⟩ := List.mem_filter.mp member
    obtain ⟨inside, place⟩ := List.mem_filter.mp named
    have place : j.slot = i := beq_iff_eq.mp place
    have found : p.slots[j.slot]? = some h.slot := place ▸ follows.shown
    have stale := isOvertaken_iff found
    simp only [Bool.not_eq_true'] at fresh
    simp only [fresh, Bool.false_eq_true, false_iff, Decidable.not_not] at stale
    exact ⟨inside, place, stale⟩
  refine length_le_one ((distinct.filter _).filter _) ?_
  intro j first k second
  obtain ⟨inside, place, generation⟩ := held first
  obtain ⟨inside', place', generation'⟩ := held second
  have number := follows.own j inside k inside' place place' (generation.symm.trans generation')
  exact List.inj_on_of_nodup_map orderly.distinct inside inside' number

theorem Rests.current_eq (rests : Rests p) : p.current i = p.submissions i := by
  apply List.filter_eq_self.mpr
  intro j member
  rw [rests j (List.mem_filter.mp member).1]
  rfl

/-- A submission that has been overtaken can end at once, and nothing else changes. -/
theorem exists_end (orderly : Orderly p) (member : j ∈ p.jobs) (overtaken : p.isOvertaken j = true) :
    ∃ m, m.works = true ∧ p.step? engine m =
      some ([.ended j.number .superseded], p.leave j.number .superseded) := by
  obtain ⟨slot, found, picked⟩ := jobWithSlot?_of_mem orderly member
  have changed : slot.generation ≠ j.token := (isOvertaken_iff found).mp overtaken
  have stale : slot.accepts j.token = false := by simp [Slot.accepts, changed]
  cases stage : j.progress with
  | settled result =>
    refine ⟨.settle j.number, rfl, ?_⟩
    simp only [step?, picked, Option.bind_some, settle?, stage, bring, Slot.finish_of_stale stale,
      set_same found]
  | waiting wait =>
    refine ⟨.select j.number true, rfl, ?_⟩
    simp [step?, picked, select?, abandon?, stage, changed]
  | done result =>
    refine ⟨.select j.number true, rfl, ?_⟩
    simp [step?, picked, select?, abandon?, stage, changed]

/-- All that have been overtaken can end before anything else happens. -/
theorem exists_rests (orderly : Orderly p) :
    ∃ q, RunsBy Move.works engine p q ∧ Rests q ∧ q.session = p.session ∧ q.slots = p.slots ∧
      q.jobs = p.jobs.filter fun j => !p.isOvertaken j := by
  induction size : p.jobs.length using Nat.strongRecOn generalizing p with
  | ind n ih =>
    by_cases rests : Rests p
    · refine ⟨p, .refl, rests, rfl, rfl, (List.filter_eq_self.mpr ?_).symm⟩
      intro j member
      rw [rests j member]
      rfl
    · simp only [Rests, not_forall, Bool.not_eq_false] at rests
      obtain ⟨j, member, overtaken⟩ := rests
      obtain ⟨m, works, step⟩ : ∃ m : Move, m.works = true ∧ p.step? engine m = _ :=
        exists_end orderly member overtaken
      have left := (leads_of_step? step).orderly orderly
      have fewer : (p.leave j.number .superseded).jobs.length < n := by
        rw [← size]
        exact List.length_filter_lt_length_iff_exists.mpr ⟨j, member, by simp⟩
      obtain ⟨q, runs, rests, session, slots, jobs⟩ := ih _ fewer left rfl
      refine ⟨q, .head ⟨m, _, works, step⟩ runs, rests, session, slots, ?_⟩
      rw [jobs]
      show (p.jobs.filter fun k => k.number != j.number).filter (fun k => !p.isOvertaken k) = _
      rw [List.filter_filter]
      apply List.filter_congr
      intro k inside
      by_cases same : k.number = j.number
      · rw [List.inj_on_of_nodup_map orderly.distinct inside member same, overtaken]
        rfl
      · simp [same]

/-! ### Schedulers -/

/-- Nobody can go on. -/
def Idle (engine : Engine) (p : Pool) : Prop :=
  ∀ m : Move, m.works = true → p.step? engine m = none

/-- Whoever has been overtaken could go on. -/
theorem Idle.rests (idle : Idle engine p) (orderly : Orderly p) : p.Rests := by
  intro j member
  cases overtaken : p.isOvertaken j with
  | false => rfl
  | true =>
    obtain ⟨m, works, step⟩ : ∃ m : Move, m.works = true ∧ p.step? engine m = _ :=
      exists_end orderly member overtaken
    rw [idle m works] at step
    cases step

/-- The move is possible, and it lets time pass only if all who were overtaken have seen it. -/
def Timely (engine : Engine) (m : Move) (p q : Pool) : Prop :=
  (∃ events, p.step? engine m = some (events, q)) ∧ ∀ time, m = .elapse time → p.Rests

/-- A run of timely moves, as of a scheduler that goes on with all who are woken before the clock
moves on. -/
abbrev TimelyRun (engine : Engine) : Pool → Pool → Prop :=
  Relation.ReflTransGen fun p q => ∃ m, Timely engine m p q

theorem TimelyRun.leads (run : TimelyRun engine p q) : Leads engine p q := by
  induction run with
  | refl => exact .refl p
  | tail _ last before =>
    obtain ⟨m, ⟨events, step⟩, -⟩ := last
    exact before.trans (leads_of_step? step)

theorem timelyRun_of_run? {moves : List Move} {events : List Event}
    (run : p.run? engine moves = some (events, q)) (still : ∀ m ∈ moves, ∀ time, m ≠ .elapse time) :
    TimelyRun engine p q := by
  induction moves generalizing p events with
  | nil =>
    cases run
    exact .refl
  | cons m rest ih =>
    obtain ⟨⟨first, next⟩, step, run⟩ := Option.bind_eq_some_iff.mp run
    obtain ⟨⟨more, last⟩, run, same⟩ := Option.bind_eq_some_iff.mp run
    cases same
    obtain ⟨stays, still⟩ := List.forall_mem_cons.mp still
    have timely : Timely engine m p next :=
      ⟨⟨first, step⟩, fun time passes => absurd passes (stays time)⟩
    exact .head ⟨m, timely⟩ (ih run still)

end Pool

end CatalogueViewer
