import CatalogueViewer.Proofs.Render.DeskSteps
import CatalogueViewer.Proofs.Render.PoolHistory

/-!
# The desk as a scheduler

Whatever a desk is asked to do, some run of its pool leads to the same slots and outcomes:
`performAll_leads`.  So what holds of every run of a pool holds of a desk.
-/

namespace CatalogueViewer

namespace Desk

variable {engine : Engine} {renderer : Renderer} {d : Desk} {s : Submission}

theorem pool_dropStale_proceeds (orderly : (d.pool renderer).Orderly) :
    Pool.Proceeds engine (d.pool renderer) (d.dropStale.pool renderer) := by
  have none : d.underway.map (Submission.job renderer) ++ [] =
      d.underway.map (Submission.job renderer) := List.append_nil _
  rw [pool, ← none] at orderly
  have dropped : Pool.Proceeds engine _ _ := dropStale_proceeds orderly
  rw [List.append_nil, List.append_nil] at dropped
  exact dropped

theorem teardown_leads (i : Nat) (orderly : (d.pool renderer).Orderly) :
    Pool.Leads engine (d.pool renderer) ((d.teardown i).pool renderer) := by
  have closed : Pool.Leads engine (d.pool renderer) ((d.closeSlot i).pool renderer) := by
    have same : ((d.pool renderer).closeSlot i).2 = (d.closeSlot i).pool renderer := by
      rw [pool, withJobs_closeSlot, pool, (closeSlot_frame d i).1]
    rw [← same]
    exact Pool.leads_of_step? (m := .teardown i) rfl
  have dropped : Pool.Proceeds engine _ _ := pool_dropStale_proceeds (closed.orderly orderly)
  exact closed.trans dropped.leads

theorem atTime_proceeds (d : Desk) (time : Nat) :
    Pool.Proceeds engine (d.pool renderer) ((d.atTime time).pool renderer) := by
  have elapsed : Pool.Proceeds engine (d.pool renderer)
      { d.pool renderer with
        session := (d.pool renderer).session.elapse (time - d.session.now) } :=
    Pool.proceeds_of_step? (m := .elapse (time - d.session.now)) rfl rfl
  have now : d.session.now + (time - d.session.now) = max d.session.now time := by omega
  have same : (d.pool renderer).session.elapse (time - d.session.now) =
      { d.session with now := max d.session.now time } := by
    rw [← now]
    rfl
  rw [same] at elapsed
  exact elapsed

theorem step_proceeds (orderly : (d.pool renderer).Orderly) (member : s ∈ d.underway) :
    Pool.Proceeds engine (d.pool renderer) ((d.step engine renderer s).pool renderer) := by
  have job : s.job renderer ∈ (d.pool renderer).jobs := List.mem_map_of_mem member
  have holds : Holds renderer
      (atTime { d with underway := d.underway.filter fun t => t.number != s.number } s.due)
      (d.pool renderer).jobs s (.waiting s.stage) s.due := by
    refine ⟨Pool.job?_of_mem orderly job, ?_⟩
    unfold pool withJobs
    rw [List.filter_map]
    rfl
  have acted : Pool.Proceeds engine _ _ :=
    act_proceeds holds (Nat.le_max_right _ _) (orderly.inside _ job)
  have gone : Pool.Proceeds engine (d.pool renderer) _ := (atTime_proceeds d s.due).trans acted
  exact gone.trans (pool_dropStale_proceeds (gone.leads.orderly orderly))

theorem foldl_earlier_mem (s : Submission) (rest : List Submission) :
    rest.foldl earlier s ∈ s :: rest := by
  induction rest generalizing s with
  | nil => exact List.mem_singleton.mpr rfl
  | cons t rest ih =>
    have one : earlier s t = t ∨ earlier s t = s := by
      unfold earlier
      split
      · exact Or.inl rfl
      · exact Or.inr rfl
    rcases List.mem_cons.mp (ih (earlier s t)) with first | later
    · rw [List.foldl_cons, first]
      rcases one with same | same
      · simp [same]
      · simp [same]
    · exact List.mem_cons_of_mem _ (List.mem_cons_of_mem _ later)

theorem mem_of_next? {underway : List Submission} (first : next? underway = some s) :
    s ∈ underway := by
  cases underway with
  | nil => cases first
  | cons t rest =>
    obtain rfl := Option.some.inj first
    exact foldl_earlier_mem t rest

theorem runSteps_proceeds (limit : Option Nat) (steps : Nat) (orderly : (d.pool renderer).Orderly) :
    Pool.Proceeds engine (d.pool renderer)
      ((runSteps engine renderer limit steps d).pool renderer) := by
  induction steps generalizing d with
  | zero => exact .refl
  | succ steps ih =>
    unfold runSteps
    split
    · exact .refl
    · next s first =>
      split
      · have stepped : Pool.Proceeds engine _ _ := step_proceeds orderly (mem_of_next? first)
        exact stepped.trans (ih (stepped.leads.orderly orderly))
      · exact .refl

theorem holds_of_orderly {s : Submission} {progress : Progress} {due : Nat}
    (orderly : (d.withJobs (d.underway.map (Submission.job renderer) ++
      [s.jobAt renderer progress due])).Orderly) :
    Holds renderer d (d.underway.map (Submission.job renderer) ++ [s.jobAt renderer progress due]) s
      progress due := by
  have distinct := orderly.distinct
  rw [withJobs, List.map_append, List.nodup_append] at distinct
  obtain ⟨_, _, apart⟩ := distinct
  have other : ∀ k ∈ d.underway.map (Submission.job renderer), (k.number != s.number) = true := by
    intro k member
    have differs :=
      apart k.number (List.mem_map_of_mem member) s.number (List.mem_singleton.mpr rfl)
    simpa using differs
  refine ⟨Pool.job?_of_mem orderly (List.mem_append_right _ List.mem_cons_self), ?_⟩
  rw [List.filter_append, List.filter_eq_self.mpr other]
  simp [Submission.jobAt]

/-- A submission that has begun drops those before it and then waits, or needs no engine. -/
theorem enter_proceeds {number i token : Nat} (text : String)
    (orderly : (d.withJobs (d.underway.map (Submission.job renderer) ++
      [Pool.jobOf number i token renderer text d.session.now])).Orderly) :
    Pool.Proceeds engine
      (d.withJobs (d.underway.map (Submission.job renderer) ++
        [Pool.jobOf number i token renderer text d.session.now]))
      (Desk.pool renderer <|
        match Diagram.prepare text with
        | .ready diagram =>
          d.dropStale.await ⟨number, i, token, diagram.source, .debounce, d.session.now⟩ .debounce
            renderer.debounce
        | .noContent =>
          d.dropStale.commit ⟨number, i, token, "", .debounce, d.session.now⟩ (.error noContent)
        | .rejected _ =>
          d.dropStale.commit ⟨number, i, token, "", .debounce, d.session.now⟩ .invalid) := by
  have dropped : Pool.Proceeds engine _ _ := dropStale_proceeds orderly
  have kept := dropped.leads.orderly orderly
  have inside := kept.inside _ (List.mem_append_right _ List.mem_cons_self)
  refine dropped.trans ?_
  unfold Pool.jobOf at kept inside ⊢
  generalize Diagram.prepare text = prepared at kept inside ⊢
  cases prepared with
  | ready diagram =>
    have waits : d.dropStale.withJobs (d.dropStale.underway.map (Submission.job renderer) ++
        [⟨number, i, token, renderer, diagram.source, .waiting .debounce,
          d.session.now + renderer.debounce⟩]) =
        (d.dropStale.await ⟨number, i, token, diagram.source, .debounce, d.session.now⟩ .debounce
          renderer.debounce).pool renderer := by
      simp only [pool, await, List.map_append]
      rfl
    rw [← waits]
  | noContent =>
    have holds := holds_of_orderly (s := ⟨number, i, token, "", .debounce, d.session.now⟩) kept
    exact commit_proceeds holds (Or.inl rfl) inside
  | rejected reason =>
    have holds := holds_of_orderly (s := ⟨number, i, token, "", .debounce, d.session.now⟩) kept
    exact commit_proceeds holds (Or.inl rfl) inside

/-- To start a submission is one move, after which nothing else begins. -/
theorem start_proceeds (engine : Engine) {i : Nat} (text : String)
    (orderly : (d.pool renderer).Orderly)
    (inside : i < d.slots.length) :
    ∃ events p, (d.pool renderer).step? engine (.submit i renderer text) = some (events, p) ∧
      Pool.Proceeds engine p ((d.start renderer i text).pool renderer) := by
  have found := List.getElem?_eq_getElem inside
  have step : (d.pool renderer).step? engine (.submit i renderer text) =
      some ((d.pool renderer).submit i d.slots[i] renderer text) := by
    have place : (d.pool renderer).slots[i]? = some d.slots[i] := found
    rw [Pool.step?, place]
    rfl
  refine ⟨((d.pool renderer).submit i d.slots[i] renderer text).1,
    ((d.pool renderer).submit i d.slots[i] renderer text).2, step, ?_⟩
  have kept : ((d.pool renderer).submit i d.slots[i] renderer text).2.Orderly :=
    (Pool.leads_of_step? step).orderly orderly
  cases accepted : d.slots[i].begin? with
  | none =>
    have others : ((d.pool renderer).jobs.filter fun k => k.number != d.submitted) =
        (d.pool renderer).jobs := by
      apply List.filter_eq_self.mpr
      intro k member
      have bound : k.number < d.submitted := orderly.numbered k member
      simpa using Nat.ne_of_lt bound
    have left : ((d.pool renderer).submit i d.slots[i] renderer text).2 =
        (d.start renderer i text).pool renderer := by
      have number : (d.pool renderer).submitted = d.submitted := rfl
      simp only [Pool.submit, accepted, Pool.leave, start, found, record]
      rw [number, others]
      rfl
    rw [left]
  | some begun =>
    obtain ⟨token, slot⟩ := begun
    have entered : ((d.pool renderer).submit i d.slots[i] renderer text).2 =
        (setSlot { d with submitted := d.submitted + 1 } i slot).withJobs
          (d.underway.map (Submission.job renderer) ++
            [Pool.jobOf d.submitted i token renderer text d.session.now]) := by
      simp only [Pool.submit, accepted]
      rfl
    rw [entered] at kept ⊢
    have began : Pool.Proceeds engine _ _ := enter_proceeds text kept
    simp only [start, found, accepted]
    exact began

theorem start_leads {i : Nat} (text : String) (orderly : (d.pool renderer).Orderly)
    (inside : i < d.slots.length) :
    Pool.Leads engine (d.pool renderer) ((d.start renderer i text).pool renderer) := by
  obtain ⟨_, _, step, proceeds⟩ := start_proceeds engine text orderly inside
  exact (Pool.leads_of_step? step).trans proceeds.leads

/-! ### Going on until nothing is left -/

/-- The number of waits that these submissions can still have. -/
def waitsOf (underway : List Submission) : Nat := (underway.map fun s => s.stage.waits).sum

theorem waits_pos (stage : Stage) : 0 < stage.waits := by
  cases stage <;> exact Nat.succ_pos _

theorem remaining_eq (d : Desk) : d.remaining = waitsOf d.underway := by
  rw [remaining, waitsOf, ← List.foldl_map, ← List.sum_eq_foldl]

theorem waitsOf_cons (s : Submission) (rest : List Submission) :
    waitsOf (s :: rest) = s.stage.waits + waitsOf rest := rfl

theorem waitsOf_append (xs ys : List Submission) : waitsOf (xs ++ ys) = waitsOf xs + waitsOf ys := by
  rw [waitsOf, List.map_append, List.sum_append]
  rfl

theorem underway_commit (d : Desk) (s : Submission) (result : Result) :
    (d.commit s result).underway = d.underway := by
  unfold commit
  split <;> rfl

theorem underway_takeSecond (d : Desk) (s : Submission) (reply : Reply) :
    (d.takeSecond s reply).underway = d.underway := by
  rw [takeSecond, underway_commit, (applyReply_frame d reply).1]

theorem waitsOf_takeFirst_le (d : Desk) (s : Submission) (id : SlotId) (reply : Reply) :
    waitsOf (d.takeFirst engine s id reply).underway ≤ waitsOf d.underway + 1 := by
  have same := (applyReply_frame d reply).1
  unfold takeFirst
  dsimp only
  split
  · rw [underway_commit, same]
    exact Nat.le_succ _
  · split
    · rw [underway_takeSecond, same]
      exact Nat.le_succ _
    · rw [await, waitsOf_append, same]
      exact Nat.le_refl _

theorem waitsOf_callEngine_le (d : Desk) (s : Submission) (id : SlotId) :
    waitsOf (d.callEngine engine renderer s id).underway ≤ waitsOf d.underway + 2 := by
  unfold callEngine
  dsimp only
  split
  · exact Nat.le_succ_of_le (waitsOf_takeFirst_le _ s id _)
  · rw [await, waitsOf_append]
    exact Nat.le_refl _

/-- A submission that has been taken on has fewer waits to come. -/
theorem waitsOf_act_lt (d : Desk) (s : Submission) :
    waitsOf (d.act engine renderer s).underway < waitsOf d.underway + s.stage.waits := by
  have some := waits_pos s.stage
  unfold act
  split
  · exact Nat.lt_add_of_pos_right some
  · next slot _ =>
    split
    · next stage =>
      have bound : waitsOf (d.callEngine engine renderer s slot.id).underway ≤ _ :=
        waitsOf_callEngine_le d s slot.id
      rw [stage]
      exact Nat.lt_succ_of_le bound
    · next reply stage =>
      have bound : waitsOf (d.takeFirst engine s slot.id reply).underway ≤ _ :=
        waitsOf_takeFirst_le d s slot.id reply
      rw [stage]
      exact Nat.lt_succ_of_le bound
    · rw [underway_takeSecond]
      exact Nat.lt_add_of_pos_right some

theorem remaining_step_lt (member : s ∈ d.underway) :
    (d.step engine renderer s).remaining < d.remaining := by
  rw [remaining_eq, remaining_eq]
  let begun := atTime { d with underway := d.underway.filter fun t => t.number != s.number } s.due
  have without : waitsOf begun.underway + s.stage.waits ≤ waitsOf d.underway :=
    sum_filter_add_le _ _ member (by simp)
  have acted : waitsOf (begun.act engine renderer s).underway <
      waitsOf begun.underway + s.stage.waits := waitsOf_act_lt begun s
  have dropped : waitsOf (begun.act engine renderer s).dropStale.underway ≤
      waitsOf (begun.act engine renderer s).underway := sum_filter_le _ _ _
  exact Nat.lt_of_le_of_lt dropped (Nat.lt_of_lt_of_le acted without)

theorem underway_runSteps {steps : Nat} (enough : d.remaining ≤ steps) :
    (runSteps engine renderer none steps d).underway = [] := by
  induction steps generalizing d with
  | zero =>
    rw [runSteps]
    cases underway : d.underway with
    | nil => rfl
    | cons s rest =>
      have some := waits_pos s.stage
      rw [remaining_eq, underway, waitsOf_cons] at enough
      omega
  | succ steps ih =>
    unfold runSteps
    split
    · next none =>
      cases underway : d.underway with
      | nil => rfl
      | cons s rest =>
        rw [underway] at none
        cases none
    · next s first =>
      have fewer : (d.step engine renderer s).remaining < d.remaining :=
        remaining_step_lt (mem_of_next? first)
      exact ih (by omega)

theorem underway_drain (d : Desk) : (d.drain engine renderer).underway = [] :=
  underway_runSteps (Nat.le_refl _)

inductive Request where
  | submit (slot : Nat) (text : String)
  | advance (time : Nat)
  | drain
  | teardown (slot : Nat)

def perform (engine : Engine) (renderer : Renderer) (d : Desk) : Request → Desk
  | .submit i text => d.submit engine renderer i text
  | .advance time => d.advance engine renderer time
  | .drain => d.drain engine renderer
  | .teardown i => d.teardown i

/-- Only a slot that exists can be submitted to. -/
def Request.Fits (count : Nat) : Request → Prop
  | .submit i _ => i < count
  | .advance _ | .drain | .teardown _ => True

theorem perform_leads {request : Request} (orderly : (d.pool renderer).Orderly)
    (fits : request.Fits d.slots.length) :
    Pool.Leads engine (d.pool renderer) ((d.perform engine renderer request).pool renderer) := by
  cases request with
  | submit i text =>
    have started : Pool.Leads engine _ _ := start_leads text orderly fits
    have settled : Pool.Proceeds engine _
        (((d.start renderer i text).settle engine renderer).pool renderer) :=
      runSteps_proceeds _ _ (started.orderly orderly)
    exact started.trans settled.leads
  | advance time =>
    have ran : Pool.Proceeds engine _ _ :=
      runSteps_proceeds (some (d.session.now + time)) d.remaining orderly
    exact ran.leads.trans (Pool.Proceeds.leads (atTime_proceeds _ _))
  | drain =>
    have ran : Pool.Proceeds engine _ _ := runSteps_proceeds none d.remaining orderly
    exact ran.leads
  | teardown i => exact teardown_leads i orderly

/-- Whatever a desk is asked to do, some run of moves of its pool does the same. -/
theorem performAll_leads (requests : List Request) (orderly : (d.pool renderer).Orderly)
    (fits : ∀ request ∈ requests, request.Fits d.slots.length) :
    Pool.Leads engine (d.pool renderer)
      ((requests.foldl (perform engine renderer) d).pool renderer) := by
  induction requests generalizing d with
  | nil => exact Pool.Leads.refl _
  | cons request rest ih =>
    have first : Pool.Leads engine _ _ := perform_leads orderly (fits request List.mem_cons_self)
    refine first.trans (ih (first.orderly orderly) ?_)
    intro next member
    have length : (d.perform engine renderer request).slots.length = d.slots.length :=
      first.length_slots
    rw [length]
    exact fits next (List.mem_cons_of_mem _ member)

/-- Each slot of a new desk keeps to the moves of a history. -/
theorem exists_history {requests : List Request} {slots : List Slot} {i : Nat} {id : SlotId}
    (new : slots[i]? = some { id := id })
    (fits : ∀ request ∈ requests, request.Fits slots.length) :
    ∃ moves h, (SlotHistory.new id).run? moves = some h ∧
      (requests.foldl (perform engine renderer) { session := {}, slots := slots }).slots[i]? =
        some h.slot := by
  have orderly : (pool renderer { session := {}, slots := slots }).Orderly :=
    Pool.orderly_of_no_jobs rfl
  have leads : Pool.Leads engine _ _ := performAll_leads requests orderly fits
  exact leads.exists_history rfl new

end Desk

end CatalogueViewer
