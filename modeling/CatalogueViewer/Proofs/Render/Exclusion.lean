import CatalogueViewer.Proofs.Render.DeskRuns
import CatalogueViewer.Proofs.Render.Overtaking
import Mathlib.Data.List.Induction

/-!
# One call at a time

The call for a submission that has been overtaken stays pending until the submission looks at the
generation of its slot.  A newer submission with no time to wait may call before that, so two calls
of a kind can be pending for one slot.  `calls_apart` says exactly when that is so, and that it
never is where all submissions wait for a time and the clock waits for all who are woken.
-/

namespace CatalogueViewer

namespace Pool

variable {engine : Engine} {p q : Pool} {j k : Job} {i : Nat} {slot : Slot} {m : Move}
  {events : List Event} {turn : Turn} {moves : List Move}

/-! ### Pending calls -/

/-- The submissions to a slot for which a call is pending. -/
def pendingCalls (p : Pool) (turn : Turn) (i : Nat) : List Job :=
  (p.submissions i).filter fun j => j.progress.pending? == some turn

/-- The move makes a call while one of its kind is pending for another submission to the slot. -/
def Crowds (turn : Turn) (i : Nat) (p : Pool) (m : Move) : Prop :=
  ∃ j ∈ p.submissions i, m = .work j.number ∧ j.progress.next? = some turn ∧
    ∃ k ∈ p.pendingCalls turn i, k.number ≠ j.number

theorem mem_submissions_iff : j ∈ p.submissions i ↔ j ∈ p.jobs ∧ j.slot = i := by
  rw [submissions, List.mem_filter, beq_iff_eq]

theorem crowds_work_iff (orderly : Orderly p) (member : j ∈ p.jobs) :
    Crowds turn i p (.work j.number) ↔ j.slot = i ∧ j.progress.next? = some turn ∧
      ∃ k ∈ p.pendingCalls turn i, k.number ≠ j.number := by
  constructor
  · rintro ⟨x, inside, move, next, others⟩
    obtain ⟨old, place⟩ := mem_submissions_iff.mp inside
    obtain rfl := List.inj_on_of_nodup_map orderly.distinct member old (Move.work.inj move)
    exact ⟨place, next, others⟩
  · rintro ⟨place, next, others⟩
    exact ⟨j, mem_submissions_iff.mpr ⟨member, place⟩, rfl, next, others⟩

theorem mem_pendingCalls_iff : j ∈ p.pendingCalls turn i ↔
    j ∈ p.jobs ∧ j.slot = i ∧ j.progress.pending? = some turn := by
  rw [pendingCalls, List.mem_filter, beq_iff_eq, mem_submissions_iff, and_assoc]

theorem length_le_one_iff (orderly : Orderly p) {kept : Job → Bool} :
    (p.jobs.filter kept).length ≤ 1 ↔
      ∀ j ∈ p.jobs.filter kept, ∀ k ∈ p.jobs.filter kept, j.number = k.number := by
  constructor
  · intro one j first k second
    rcases Nat.le_one_iff_eq_zero_or_eq_one.mp one with none | single
    · rw [List.length_eq_zero_iff.mp none] at first
      cases first
    · obtain ⟨x, only⟩ := List.length_eq_one_iff.mp single
      rw [only] at first second
      rw [List.mem_singleton.mp first, List.mem_singleton.mp second]
  · intro same
    have distinct : p.jobs.Nodup := .of_map Job.number orderly.distinct
    refine length_le_one (distinct.filter _) fun j first k second => ?_
    exact List.inj_on_of_nodup_map orderly.distinct (List.mem_filter.mp first).1
      (List.mem_filter.mp second).1 (same j first k second)

theorem length_pendingCalls_le_one_iff (orderly : Orderly p) :
    (p.pendingCalls turn i).length ≤ 1 ↔
      ∀ j ∈ p.pendingCalls turn i, ∀ k ∈ p.pendingCalls turn i, j.number = k.number := by
  rw [pendingCalls, submissions, List.filter_filter]
  exact length_le_one_iff orderly

theorem jobOf_waits (number slot token : Nat) (r : Renderer) (text : String) (now : Nat) :
    (jobOf number slot token r text now).progress.pending? = none ∧
      (jobOf number slot token r text now).progress.hasCalled = false ∧
      ((jobOf number slot token r text now).progress = .waiting .debounce →
        (jobOf number slot token r text now).due = now + r.debounce) := by
  unfold jobOf
  cases Diagram.prepare text with
  | ready diagram => exact ⟨rfl, rfl, fun _ => rfl⟩
  | noContent | rejected => exact ⟨rfl, rfl, nofun⟩

/-- The work on a submission makes the call that comes next, and keeps those of the others. -/
theorem mem_pendingCalls_of_work (turn : Turn) (i : Nat)
    (worked : p.work? engine j slot.id = some (events, q)) :
    ∃ new : Job, new.number = j.number ∧ ∀ k, k ∈ q.pendingCalls turn i ↔
      k ∈ p.pendingCalls turn i ∧ k.number ≠ j.number ∨
        k = new ∧ j.slot = i ∧ j.progress.next? = some turn := by
  obtain ⟨r, session, progress, time, change, ⟨-, pending⟩, rfl⟩ := work?_hasCalled worked
  refine ⟨{ j with progress := progress, due := session.now + time }, rfl, fun k => ?_⟩
  rw [mem_pendingCalls_iff, mem_pendingCalls_iff, ← pending]
  simp only [await, change.jobs, List.mem_append, List.mem_filter, List.mem_singleton, bne_iff_ne]
  constructor
  · rintro ⟨⟨old, other⟩ | rfl, place, called⟩
    · exact Or.inl ⟨⟨old, place, called⟩, other⟩
    · exact Or.inr ⟨rfl, place, called⟩
  · rintro (⟨⟨old, place, called⟩, other⟩ | ⟨rfl, place, called⟩)
    · exact ⟨Or.inl ⟨old, other⟩, place, called⟩
    · exact ⟨Or.inr rfl, place, called⟩

/-- No other move makes a call. -/
theorem Does.pendingCalls_subset (turn : Turn) (i : Nat) (does : Does engine p m events q)
    (quiet : ∀ number, m ≠ .work number) : q.pendingCalls turn i ⊆ p.pendingCalls turn i := by
  intro k member
  obtain ⟨inside, place, called⟩ := mem_pendingCalls_iff.mp member
  cases does.origin inside with
  | kept old => exact mem_pendingCalls_iff.mpr ⟨old, place, called⟩
  | worked old move => exact absurd move (quiet _)
  | began move event new =>
    rw [new, (jobOf_waits ..).1] at called
    cases called

/-- A call joins another one exactly if the move is made while that one is pending. -/
theorem length_pendingCalls_le_one_step (orderly : Orderly p)
    (step : p.step? engine m = some (events, q)) (alone : (p.pendingCalls turn i).length ≤ 1) :
    (q.pendingCalls turn i).length ≤ 1 ↔ ¬ Crowds turn i p m := by
  have after := (step?_effect engine step).orderly orderly
  rw [length_pendingCalls_le_one_iff after]
  rw [length_pendingCalls_le_one_iff orderly] at alone
  have does := step?_does step
  by_cases quiet : ∀ number, m ≠ .work number
  · have fewer := does.pendingCalls_subset turn i quiet
    constructor
    · rintro - ⟨j, -, move, -⟩
      exact quiet _ move
    · exact fun _ j first k second => alone j (fewer first) k (fewer second)
  · obtain ⟨number, rfl⟩ := not_forall_not.mp quiet
    cases does with
    | @works j slot _ _ found worked =>
      have inside := (jobWithSlot?_eq_some found).1
      obtain ⟨new, number, pending⟩ := mem_pendingCalls_of_work turn i worked
      rw [crowds_work_iff orderly inside]
      constructor
      · rintro same ⟨place, next, k, called, other⟩
        have equal := same k ((pending k).mpr (Or.inl ⟨called, other⟩)) new
          ((pending new).mpr (Or.inr ⟨rfl, place, next⟩))
        exact other (equal.trans number)
      · intro lonely x first y second
        rcases (pending x).mp first with ⟨old, other⟩ | ⟨rfl, place, next⟩ <;>
          rcases (pending y).mp second with ⟨old', other'⟩ | ⟨rfl, place', next'⟩
        · exact alone x old y old'
        · exact absurd ⟨place', next', x, old, other⟩ lonely
        · exact absurd ⟨place, next, y, old', other'⟩ lonely
        · rfl
    | ends looks => rcases looks with move | ⟨_, move⟩ <;> cases move

/-! ### Runs -/

theorem exists_of_run?_append {first second : List Move}
    (run : p.run? engine (first ++ second) = some (events, q)) :
    ∃ early late r, p.run? engine first = some (early, r) ∧
      r.run? engine second = some (late, q) := by
  induction first generalizing p events with
  | nil => exact ⟨[], events, p, rfl, run⟩
  | cons m rest ih =>
    obtain ⟨⟨now, next⟩, step, run⟩ := Option.bind_eq_some_iff.mp run
    obtain ⟨⟨more, last⟩, run, same⟩ := Option.bind_eq_some_iff.mp run
    cases same
    obtain ⟨early, late, r, before, after⟩ := ih run
    refine ⟨now ++ early, late, r, ?_, after⟩
    rw [run?, step]
    simp [before]

theorem exists_of_run?_single (run : p.run? engine [m] = some (events, q)) :
    ∃ events, p.step? engine m = some (events, q) := by
  obtain ⟨⟨now, next⟩, step, run⟩ := Option.bind_eq_some_iff.mp run
  cases run
  exact ⟨now, step⟩

/-- The pool is passed through by the run. -/
def Passes (engine : Engine) (start : Pool) (moves before : List Move) (p : Pool) : Prop :=
  before <+: moves ∧ ∃ events, start.run? engine before = some (events, p)

/-- A run keeps the calls of a kind apart exactly if it makes none while one is pending. -/
theorem pendingCalls_apart_iff {start : Pool} (idle : start.jobs = [])
    (run : start.run? engine moves = some (events, q)) :
    (∀ before p, Passes engine start moves before p → (p.pendingCalls turn i).length ≤ 1) ↔
      ∀ before m p, before ++ [m] <+: moves → Passes engine start moves before p →
        ¬ Crowds turn i p m := by
  have orderly {before : List Move} {p : Pool} (passes : Passes engine start moves before p) :
      Orderly p := by
    obtain ⟨-, events, run⟩ := passes
    exact Leads.orderly ⟨before, events, run⟩ (orderly_of_no_jobs idle)
  constructor
  · rintro apart before m p within passes
    obtain ⟨rest, rfl⟩ := within
    obtain ⟨early, _, r, upto, -⟩ := exists_of_run?_append run
    obtain ⟨_, _, k, first, last⟩ := exists_of_run?_append upto
    obtain ⟨now, step⟩ := exists_of_run?_single last
    obtain ⟨-, past, reached⟩ := passes
    cases first.symm.trans reached
    have passes : Passes engine start (before ++ [m] ++ rest) before p :=
      ⟨(List.prefix_append _ _).trans (List.prefix_append _ _), _, reached⟩
    exact (length_pendingCalls_le_one_step (orderly passes) step (apart _ _ passes)).mp
      (apart _ _ ⟨List.prefix_append _ _, early, upto⟩)
  · intro lonely before
    induction before using List.reverseRecOn with
    | nil =>
      rintro p ⟨-, past, reached⟩
      cases reached
      rw [pendingCalls, submissions, idle]
      exact Nat.zero_le 1
    | append_singleton before m ih =>
      rintro p ⟨within, past, reached⟩
      obtain ⟨early, _, r, first, last⟩ := exists_of_run?_append reached
      obtain ⟨now, step⟩ := exists_of_run?_single last
      have passes : Passes engine start moves before r :=
        ⟨(List.prefix_append _ _).trans within, early, first⟩
      exact (length_pendingCalls_le_one_step (orderly passes) step (ih r passes)).mpr
        (lonely before m r within passes)

/-! ### New slots -/

/-- Slots that nothing has been submitted to. -/
def fresh (session : Session) (ids : List SlotId) : Pool where
  session := session
  slots := ids.map fun id => { id := id }

variable {session : Session} {ids : List SlotId}

theorem orderly_of_fresh (reached : Leads engine (fresh session ids) p) : Orderly p :=
  reached.orderly (orderly_of_no_jobs rfl)

theorem length_current_le_one (reached : Leads engine (fresh session ids) p) (i : Nat) :
    (p.current i).length ≤ 1 := by
  have orderly := orderly_of_fresh reached
  by_cases inside : i < ids.length
  · have new : (fresh session ids).slots[i]? = some { id := ids[i] } := by
      simp [fresh, inside]
    obtain ⟨_, h, -, follows⟩ := reached.exists_follows rfl new
    exact length_current_le orderly follows
  · have nobody : p.submissions i = [] := by
      apply List.filter_eq_nil_iff.mpr
      intro j member place
      have bound := orderly.inside j member
      rw [reached.length_slots, beq_iff_eq.mp place, fresh, List.length_map] at bound
      exact inside bound
    rw [current, nobody]
    exact Nat.zero_le 1

theorem length_submissions_le_one (reached : Leads engine (fresh session ids) p) (rests : p.Rests)
    (i : Nat) : (p.submissions i).length ≤ 1 :=
  rests.current_eq ▸ length_current_le_one reached i

/-! ### Submissions that wait -/

/-- Whoever submits waits for a time before the engine is called. -/
def Debounced (m : Move) : Prop := ∀ i r text, m = .submit i r text → 0 < r.debounce

abbrev DebouncedRun (engine : Engine) : Pool → Pool → Prop :=
  Relation.ReflTransGen fun p q => ∃ m, Debounced m ∧ Timely engine m p q

theorem DebouncedRun.timelyRun (run : DebouncedRun engine p q) : TimelyRun engine p q :=
  Relation.ReflTransGen.mono (fun _ _ ⟨m, _, timely⟩ => ⟨m, timely⟩) _ _ run

/-- While a submission that came before it is under way, a submission waits. -/
def Spaced (p : Pool) : Prop :=
  ∀ j ∈ p.jobs, ∀ k ∈ p.jobs, j.slot = k.slot → j.number < k.number →
    k.progress.hasCalled = false ∧ (k.progress = .waiting .debounce → p.session.now < k.due)

theorem Spaced.after (spaced : Spaced p) (orderly : Orderly p)
    (alone : p.Rests → ∀ i, (p.submissions i).length ≤ 1) (debounced : Debounced m)
    (timely : Timely engine m p q) : Spaced q := by
  obtain ⟨⟨events, step⟩, woken⟩ := timely
  intro j member k inside place before
  by_cases elapses : ∃ time, m = .elapse time
  · obtain ⟨time, rfl⟩ := elapses
    cases step
    have single := alone (woken time rfl) k.slot
    rw [submissions, length_le_one_iff orderly] at single
    have same := single j (mem_submissions_iff.mpr ⟨member, place⟩) k
      (mem_submissions_iff.mpr ⟨inside, rfl⟩)
    exact absurd same (Nat.ne_of_lt before)
  have effect := step?_effect engine step
  have now := (step?_session step).now fun time move => elapses ⟨time, move⟩
  have earlier {x : Job} (old : x ∈ p.jobs) (number : x.number = k.number) :
      ∃ y ∈ p.jobs, y.slot = j.slot ∧ y.number < x.number := by
    have bound := orderly.numbered x old
    rcases effect.job member with ⟨y, there, same, slot, -⟩ | ⟨new, -⟩
    · exact ⟨y, there, slot, by omega⟩
    · omega
  cases (step?_does step).origin inside with
  | kept old =>
    obtain ⟨y, there, slot, less⟩ := earlier old rfl
    rw [now]
    exact spaced y there k old (slot.trans place) less
  | @worked x old _ due number slot _ _ _ _ waits =>
    obtain ⟨y, there, slot', less⟩ := earlier old number.symm
    obtain ⟨uncalled, early⟩ := spaced y there x old (slot'.trans (place.trans slot)) less
    exact absurd (early (Progress.eq_debounce waits uncalled)) (Nat.not_lt.mpr due)
  | @began _ token r text move _ new =>
    obtain ⟨-, uncalled, due⟩ := jobOf_waits p.submitted _ token r text p.session.now
    rw [new, now]
    exact ⟨uncalled, fun stage => due stage ▸ Nat.lt_add_of_pos_right (debounced _ r text move)⟩

theorem DebouncedRun.spaced (run : DebouncedRun engine (fresh session ids) p) : Spaced p := by
  induction run with
  | refl => exact fun _ member => by cases member
  | tail before last ih =>
    obtain ⟨m, debounced, timely⟩ := last
    have reached := (DebouncedRun.timelyRun before).leads
    exact ih.after (orderly_of_fresh reached) (length_submissions_le_one reached) debounced timely

/-- The second of two calls would be that of a submission that still waits. -/
theorem Spaced.length_pendingCalls_le_one (spaced : Spaced p) (orderly : Orderly p) (turn : Turn)
    (i : Nat) : (p.pendingCalls turn i).length ≤ 1 := by
  have apart {j k : Job} (first : j ∈ p.pendingCalls turn i) (second : k ∈ p.pendingCalls turn i) :
      ¬ j.number < k.number := by
    intro before
    obtain ⟨member, place, -⟩ := mem_pendingCalls_iff.mp first
    obtain ⟨inside, place', called⟩ := mem_pendingCalls_iff.mp second
    have waits := (spaced j member k inside (place.trans place'.symm) before).1
    rw [Progress.hasCalled_of_pending? called] at waits
    cases waits
  rw [length_pendingCalls_le_one_iff orderly]
  intro j first k second
  exact Nat.le_antisymm (Nat.not_lt.mp (apart second first)) (Nat.not_lt.mp (apart first second))

end Pool

/-! ### A desk -/

namespace Desk

variable {engine : Engine} {renderer : Renderer} {d : Desk}

/-- No submission that is under way has been overtaken. -/
def Rests (d : Desk) : Prop := ∀ s ∈ d.underway, d.isCurrent s = true

theorem rests_pool (rests : d.Rests) (renderer : Renderer) : (d.pool renderer).Rests := by
  intro j member
  obtain ⟨s, inside, rfl⟩ := List.mem_map.mp member
  have now := rests s inside
  cases found : d.slots[s.slot]? with
  | none =>
    have place : (d.pool renderer).slots[(s.job renderer).slot]? = none := found
    rw [Pool.isOvertaken, place]
  | some slot =>
    have place : (d.pool renderer).slots[(s.job renderer).slot]? = some slot := found
    rw [isCurrent, found] at now
    rw [Pool.isOvertaken, place]
    exact bne_eq_false_iff_eq.mpr (beq_iff_eq.mp now)

theorem isCurrent_of_generation {s : Submission} {slot : Slot}
    (found : d.slots[s.slot]? = some slot) (same : slot.generation = s.token) :
    d.isCurrent s = true := by
  rw [isCurrent, found]
  exact beq_iff_eq.mpr same

theorem rests_dropStale (d : Desk) : d.dropStale.Rests :=
  fun _ member => (List.mem_filter.mp member).2

theorem isCurrent_commit (d : Desk) (s t : Submission) (result : Result) :
    (d.commit s result).isCurrent t = d.isCurrent t := by
  unfold commit
  cases found : d.slots[s.slot]? with
  | none => rfl
  | some slot =>
    have inside := (List.getElem?_eq_some_iff.mp found).1
    have generation : (slot.finish s.token result).2.generation = slot.generation := by
      unfold Slot.finish
      split <;> rfl
    simp only [isCurrent, record, setSlot]
    by_cases same : s.slot = t.slot
    · rw [← same, List.getElem?_set_self inside, found]
      simp only [generation]
    · rw [List.getElem?_set_ne same]

theorem rests_commit (rests : d.Rests) (s : Submission) (result : Result) :
    (d.commit s result).Rests := by
  intro t member
  rw [underway_commit] at member
  rw [isCurrent_commit]
  exact rests t member

theorem rests_start (rests : d.Rests) (renderer : Renderer) (i : Nat) (text : String) :
    (d.start renderer i text).Rests := by
  cases found : d.slots[i]? with
  | none =>
    simp only [start, found]
    exact rests
  | some slot =>
    cases accepted : slot.begin? with
    | none =>
      simp only [start, found, accepted]
      exact rests
    | some begun =>
      obtain ⟨token, begun⟩ := begun
      obtain ⟨_, rfl, raised⟩ := Slot.begin?_eq_some_iff.mp accepted
      have dropped := rests_dropStale (setSlot { d with submitted := d.submitted + 1 } i begun)
      simp only [start, found, accepted]
      cases Diagram.prepare text with
      | ready diagram =>
        intro s member
        rcases List.mem_append.mp member with old | new
        · exact dropped s old
        · have shown : (d.slots.set i begun)[i]? = some begun :=
            List.getElem?_set_self (List.getElem?_eq_some_iff.mp found).1
          rw [List.mem_singleton.mp new]
          exact isCurrent_of_generation shown (by rw [raised])
      | noContent => exact rests_commit dropped _ _
      | rejected reason => exact rests_commit dropped _ _

theorem rests_runSteps (rests : d.Rests) (limit : Option Nat) (steps : Nat) :
    (runSteps engine renderer limit steps d).Rests := by
  induction steps generalizing d with
  | zero => exact rests
  | succ steps ih =>
    unfold runSteps
    split
    · exact rests
    · split
      · exact ih (rests_dropStale _)
      · exact rests

theorem rests_perform (rests : d.Rests) (request : Request) :
    (d.perform engine renderer request).Rests := by
  cases request with
  | submit i text => exact rests_runSteps (rests_start rests renderer i text) _ _
  | advance time =>
    have ran : (runSteps engine renderer (some (d.session.now + time)) d.remaining d).Rests :=
      rests_runSteps rests _ _
    exact ran
  | drain => exact rests_runSteps rests _ _
  | teardown i => exact rests_dropStale _

theorem rests_performAll (rests : d.Rests) (requests : List Request) :
    (requests.foldl (perform engine renderer) d).Rests := by
  induction requests generalizing d with
  | nil => exact rests
  | cons request rest ih => exact ih (rests_perform rests request)

end Desk

namespace Pool

variable {engine : Engine} {session : Session} {ids : List SlotId}

theorem rests_desk (renderer : Renderer) {requests : List Desk.Request}
    (fits : ∀ request ∈ requests, request.Fits ids.length) (limit : Option Nat) (steps : Nat) :
    let d := Desk.runSteps engine renderer limit steps
      (requests.foldl (Desk.perform engine renderer)
        { session := session, slots := (fresh session ids).slots })
    Leads engine (fresh session ids) (d.pool renderer) ∧ (d.pool renderer).Rests := by
  intro d
  have start : Desk.Rests { session := session, slots := (fresh session ids).slots } :=
    fun _ member => by cases member
  have orderly : (Desk.pool renderer
      { session := session, slots := (fresh session ids).slots }).Orderly := orderly_of_no_jobs rfl
  have performed : Leads engine _ _ := Desk.performAll_leads requests orderly (by
    intro request member
    simp only [fresh, List.length_map]
    exact fits request member)
  have stepped : Proceeds engine _ (d.pool renderer) :=
    Desk.runSteps_proceeds limit steps (performed.orderly orderly)
  refine ⟨performed.trans stepped.leads, Desk.rests_pool ?_ renderer⟩
  exact Desk.rests_runSteps (Desk.rests_performAll start requests) limit steps

/-! ### One call at a time -/

/-- When the calls for new slots are made one at a time, however the submissions go on. -/
structure CallsApart (engine : Engine) (session : Session) (ids : List SlotId) : Prop where
  /-- Two calls of a kind are pending for a slot at some moment of a run exactly if one of the
  moves makes a call while another one is pending. -/
  crowded : ∀ moves events q, (fresh session ids).run? engine moves = some (events, q) →
    ∀ turn i,
      (∀ before p, Passes engine (fresh session ids) moves before p →
        (p.pendingCalls turn i).length ≤ 1) ↔
      ∀ before m p, before ++ [m] <+: moves → Passes engine (fresh session ids) moves before p →
        ¬ Crowds turn i p m
  /-- One of two submissions has been overtaken, and all such can end before anything else
  happens. -/
  overtaken : ∀ p, Leads engine (fresh session ids) p → (∀ i, (p.current i).length ≤ 1) ∧
    ∃ q, RunsBy Move.works engine p q ∧ q.Rests ∧ q.session = p.session ∧ q.slots = p.slots ∧
      q.jobs = p.jobs.filter fun j => !p.isOvertaken j
  /-- Time passes with at most one submission to a slot under way. -/
  timely : ∀ p q time, TimelyRun engine (fresh session ids) p → Timely engine (.elapse time) p q →
    ∀ i, (p.submissions i).length ≤ 1
  /-- Where all wait before the first call, there are never two calls. -/
  debounced : ∀ p, DebouncedRun engine (fresh session ids) p →
    ∀ turn i, (p.pendingCalls turn i).length ≤ 1
  /-- A desk lets all who were overtaken end at once. -/
  desk : ∀ renderer (requests : List Desk.Request),
    (∀ request ∈ requests, request.Fits ids.length) → ∀ limit steps,
      let d := Desk.runSteps engine renderer limit steps
        (requests.foldl (Desk.perform engine renderer)
          { session := session, slots := (fresh session ids).slots })
      Leads engine (fresh session ids) (d.pool renderer) ∧
        ∀ i, ((d.pool renderer).submissions i).length ≤ 1

theorem calls_apart (engine : Engine) (session : Session) (ids : List SlotId) :
    CallsApart engine session ids where
  crowded := fun _ _ _ run _ _ => pendingCalls_apart_iff rfl run
  overtaken := fun _ reached =>
    ⟨length_current_le_one reached, exists_rests (orderly_of_fresh reached)⟩
  timely := fun _ _ time run passes =>
    length_submissions_le_one (TimelyRun.leads run) (passes.2 time rfl)
  debounced := fun _ run =>
    (DebouncedRun.spaced run).length_pendingCalls_le_one
      (orderly_of_fresh (DebouncedRun.timelyRun run).leads)
  desk := fun renderer _ fits limit steps =>
    have ⟨reached, rests⟩ := rests_desk renderer fits limit steps
    ⟨reached, length_submissions_le_one reached rests⟩

/-- An engine that takes its time. -/
def busy : Engine := fun _ call => { delay := 100, answer := .ok ⟨call.attempt, "drawn"⟩ }

/-- An engine that fails every other time at once. -/
def hesitant : Engine := fun past call =>
  if (past.countP fun e => e.call?.isSome) % 2 = 1 then busy past call
  else { answer := .error (.internal "again") }

theorem exists_busy_run : ∃ p q r : Pool,
    Pool.run? busy (fresh {} [⟨"s", by decide⟩]) [.submit 0 { debounce := 0 } "graph TD\nA-->B",
        .work 0, .submit 0 { debounce := 0 } "graph TD\nB-->A", .work 1] =
      some ([.began 0 0, .began 1 0], p) ∧
    (p.pendingCalls .first 0).map Job.number = [0, 1] ∧
    p.step? busy (.select 0 true) = some ([.ended 0 .superseded], q) ∧ q.Rests ∧
    q.step? busy (.elapse 50) = some ([], r) :=
  ⟨_, _, _, rfl, rfl, rfl, (by unfold Rests; decide), rfl⟩

theorem exists_debounced_run : ∃ p : Pool, DebouncedRun busy (fresh {} [⟨"s", by decide⟩]) p ∧
    (p.pendingCalls .first 0).map Job.number = [1] := by
  have waits {i : Nat} {text : String} : Debounced (.submit i {} text) := by
    rintro _ _ _ ⟨⟩
    decide
  have first : DebouncedRun busy (fresh {} [⟨"s", by decide⟩]) _ :=
    .single ⟨.submit 0 {} "graph TD\nA-->B", waits, ⟨_, rfl⟩, nofun⟩
  have later := first.tail ⟨.elapse 100, nofun, ⟨_, rfl⟩, fun _ _ => by unfold Rests; decide⟩
  have second := later.tail ⟨.submit 0 {} "graph TD\nB-->A", waits, ⟨_, rfl⟩, nofun⟩
  have woken := second.tail ⟨.select 0 true, nofun, ⟨_, rfl⟩, nofun⟩
  have waited := woken.tail ⟨.elapse 200, nofun, ⟨_, rfl⟩, fun _ _ => by unfold Rests; decide⟩
  exact ⟨_, waited.tail ⟨.work 1, nofun, ⟨_, rfl⟩, nofun⟩, rfl⟩

/-- Without a time to wait, the second call is made while the first one is pending; when the first
submission has looked, the clock may go on.  With such a time there is only the second call. -/
theorem calls_apart_busy :
    (∃ before m p, before ++ [m] <+: [.submit 0 { debounce := 0 } "graph TD\nA-->B", .work 0,
        .submit 0 { debounce := 0 } "graph TD\nB-->A", .work 1] ∧
      (∃ events, Pool.run? busy (fresh {} [⟨"s", by decide⟩]) before = some (events, p)) ∧
      Crowds .first 0 p m) ∧
    (∃ q r : Pool, TimelyRun busy (fresh {} [⟨"s", by decide⟩]) q ∧
      Timely busy (.elapse 50) q r ∧ (q.submissions 0).length ≤ 1) ∧
    ∃ p : Pool, DebouncedRun busy (fresh {} [⟨"s", by decide⟩]) p ∧
      (p.pendingCalls .first 0).map Job.number = [1] ∧ (p.pendingCalls .first 0).length ≤ 1 := by
  obtain ⟨p, q, r, run, pending, ended, rests, passes⟩ := exists_busy_run
  obtain ⟨d, waits, single⟩ := exists_debounced_run
  have apart := calls_apart busy {} [⟨"s", by decide⟩]
  refine ⟨?_, ?_, d, waits, single, apart.debounced d waits .first 0⟩
  · by_contra lonely
    have one := (apart.crowded _ _ _ run .first 0).mpr
      (fun before m p within through crowds => lonely ⟨before, m, p, within, through.2, crowds⟩)
      _ p ⟨List.prefix_refl _, _, run⟩
    rw [← List.length_map Job.number, pending] at one
    exact absurd one (by decide)
  · have onward : TimelyRun busy (fresh {} [⟨"s", by decide⟩]) q :=
      (timelyRun_of_run? run (by simp)).tail ⟨_, ⟨_, ended⟩, by simp⟩
    have timely : Timely busy (.elapse 50) q r := ⟨⟨_, passes⟩, fun _ _ => rests⟩
    exact ⟨q, r, onward, timely, apart.timely q r 50 onward timely 0⟩

/-- The calls of a kind that are pending for the slots of an id. -/
def pendingCallsFor (p : Pool) (turn : Turn) (id : SlotId) : List Job :=
  p.jobs.filter fun j =>
    p.slots[j.slot]?.map Slot.id == some id && j.progress.pending? == some turn

/-- At no moment are two calls of the kind pending for the slots of one id. -/
def CallsExclusively (engine : Engine) (slots : List Slot) (turn : Turn) : Prop :=
  ∀ p, Leads engine { slots := slots } p → ∀ id, (p.pendingCallsFor turn id).length ≤ 1

/-- Two calls are pending for one slot, and for two slots of one id also while time passes. -/
theorem not_callsExclusively_busy :
    ¬ CallsExclusively busy [{ id := ⟨"s", by decide⟩ }] .first ∧
    ¬ CallsExclusively hesitant [{ id := ⟨"s", by decide⟩ }] .second ∧
    ∃ p q, TimelyRun busy
        { slots := [{ id := ⟨"s", by decide⟩ }, { id := ⟨"s", by decide⟩ }] } p ∧
      Timely busy (.elapse 50) p q ∧ (p.pendingCallsFor .first ⟨"s", by decide⟩).length = 2 := by
  refine ⟨fun exclusive => ?_, fun exclusive => ?_, ?_⟩
  · have run : ∃ p, Pool.run? busy { slots := [{ id := ⟨"s", by decide⟩ }] }
          [.submit 0 { debounce := 0 } "graph TD\nA-->B", .work 0,
            .submit 0 { debounce := 0 } "graph TD\nB-->A", .work 1] =
          some ([.began 0 0, .began 1 0], p) ∧
        (p.pendingCallsFor .first ⟨"s", by decide⟩).length = 2 := ⟨_, rfl, rfl⟩
    obtain ⟨p, run, two⟩ := run
    have one := exclusive p ⟨_, _, run⟩ ⟨"s", by decide⟩
    omega
  · have run : ∃ p, Pool.run? hesitant { slots := [{ id := ⟨"s", by decide⟩ }] }
          [.submit 0 { debounce := 0 } "graph TD\nA-->B", .work 0, .work 0,
            .submit 0 { debounce := 0 } "graph TD\nB-->A", .work 1, .work 1] =
          some ([.began 0 0, .began 1 0], p) ∧
        (p.pendingCallsFor .second ⟨"s", by decide⟩).length = 2 := ⟨_, rfl, rfl⟩
    obtain ⟨p, run, two⟩ := run
    have one := exclusive p ⟨_, _, run⟩ ⟨"s", by decide⟩
    omega
  · have run : ∃ p q r s : Pool, Pool.run? busy
          { slots := [{ id := ⟨"s", by decide⟩ }, { id := ⟨"s", by decide⟩ }] }
          [.submit 0 { debounce := 0 } "graph TD\nA-->B", .work 0] = some ([.began 0 0], p) ∧
        Timely busy (.elapse 10) p q ∧
        q.run? busy [.submit 1 { debounce := 0 } "graph TD\nB-->A", .work 1] =
          some ([.began 1 1], r) ∧
        Timely busy (.elapse 50) r s ∧ (r.pendingCallsFor .first ⟨"s", by decide⟩).length = 2 :=
      ⟨_, _, _, _, rfl, ⟨⟨_, rfl⟩, fun _ _ => (by unfold Rests; decide)⟩, rfl,
        ⟨⟨_, rfl⟩, fun _ _ => (by unfold Rests; decide)⟩, rfl⟩
    obtain ⟨p, q, r, s, first, later, second, passes, two⟩ := run
    have upto : TimelyRun busy _ q := (timelyRun_of_run? first (by simp)).tail ⟨_, later⟩
    exact ⟨r, s, upto.trans (timelyRun_of_run? second (by simp)), passes, two⟩

end Pool

end CatalogueViewer
