import CatalogueViewer.Proofs.Render.Effects

/-!
# The steps of a desk as moves

A desk takes a submission as far as it gets before it looks at another one, and drops at once what
has been overtaken.  Moves of a pool do the same, one wait at a time.
-/

namespace CatalogueViewer

/-- The submission as a job that has come as far as `progress`. -/
def Submission.jobAt (renderer : Renderer) (s : Submission) (progress : Progress) (due : Nat) :
    Job :=
  ⟨s.number, s.slot, s.token, renderer, s.source, progress, due⟩

def Submission.job (renderer : Renderer) (s : Submission) : Job :=
  s.jobAt renderer (.waiting s.stage) s.due

namespace Desk

/-- The desk as a pool with some jobs. -/
def withJobs (d : Desk) (jobs : List Job) : Pool where
  session := d.session
  slots := d.slots
  jobs := jobs
  finished := d.finished
  submitted := d.submitted

def pool (renderer : Renderer) (d : Desk) : Pool :=
  d.withJobs (d.underway.map (Submission.job renderer))

/-- The jobs are those of the desk and `s`, which has come as far as `progress`. -/
structure Holds (renderer : Renderer) (d : Desk) (jobs : List Job) (s : Submission)
    (progress : Progress) (due : Nat) : Prop where
  picked : jobs.find? (fun k => k.number == s.number) = some (s.jobAt renderer progress due)
  others : jobs.filter (fun k => k.number != s.number) = d.underway.map (Submission.job renderer)

/-! ### One submission -/

variable {engine : Engine} {renderer : Renderer} {d : Desk} {s : Submission} {jobs : List Job}
  {progress : Progress} {due : Nat} {slot : Slot}

theorem Holds.await (holds : Holds renderer d jobs s progress due) (onward : Progress)
    (time : Nat) :
    ∃ more, (d.withJobs jobs).await (s.jobAt renderer progress due) onward time =
        d.withJobs more ∧
      Holds renderer d more s onward (d.session.now + time) := by
  refine ⟨_, rfl, ?_, ?_⟩
  · rw [List.find?_append, List.find?_eq_none.mpr]
    · simp [Submission.jobAt, withJobs]
    · intro k member
      have other := (List.mem_filter.mp member).2
      simpa [Submission.jobAt] using other
  · rw [List.filter_append, ← holds.others, List.filter_filter]
    simp [Submission.jobAt, withJobs]

theorem Holds.await_eq_pool (holds : Holds renderer d jobs s progress due) (stage : Stage)
    (time : Nat) :
    (d.withJobs jobs).await (s.jobAt renderer progress due) (.waiting stage) time =
      (d.await s stage time).pool renderer := by
  have others := holds.others
  simp [Pool.await, pool, withJobs, Desk.await, others, Submission.job, Submission.jobAt]

theorem Holds.bring_eq_pool (holds : Holds renderer d jobs s progress due)
    (found : d.slots[s.slot]? = some slot) (result : Result) :
    ((d.withJobs jobs).bring (s.jobAt renderer progress due) slot result).2 =
      (d.commit s result).pool renderer := by
  have others := holds.others
  simp [Pool.bring, Pool.leave, commit, found, setSlot, record, pool, withJobs, others,
    Submission.jobAt]

theorem jobWithSlot?_of_picked
    (picked : jobs.find? (fun k => k.number == s.number) = some (s.jobAt renderer progress due))
    (found : d.slots[s.slot]? = some slot) :
    (d.withJobs jobs).jobWithSlot? s.number = some (s.jobAt renderer progress due, slot) := by
  have same : (d.withJobs jobs).job? s.number = some (s.jobAt renderer progress due) := picked
  have place : (d.withJobs jobs).slots[(s.jobAt renderer progress due).slot]? = some slot := found
  simp [Pool.jobWithSlot?, same, place]

/-- A submission that needs no engine, or whose engine work is over, brings its result. -/
theorem commit_proceeds {result : Result} (holds : Holds renderer d jobs s progress due)
    (ready : progress = .settled result ∨ progress = .done result)
    (inside : s.slot < d.slots.length) :
    Pool.Proceeds engine (d.withJobs jobs) ((d.commit s result).pool renderer) := by
  have found := List.getElem?_eq_getElem inside
  rw [← holds.bring_eq_pool found]
  rcases ready with rfl | rfl
  · apply Pool.proceeds_of_step? (m := .settle s.number) rfl
    rw [Pool.step?, jobWithSlot?_of_picked holds.picked found]
    rfl
  · apply Pool.proceeds_of_step? (m := .select s.number false) rfl
    rw [Pool.step?, jobWithSlot?_of_picked holds.picked found]
    rfl

theorem work_proceeds {events : List Pool.Event} {p : Pool}
    (holds : Holds renderer d jobs s progress due) (found : d.slots[s.slot]? = some slot)
    (worked : (d.withJobs jobs).work? engine (s.jobAt renderer progress due) slot.id =
      some (events, p)) :
    Pool.Proceeds engine (d.withJobs jobs) p := by
  apply Pool.proceeds_of_step? (m := .work s.number) rfl
  rw [Pool.step?, jobWithSlot?_of_picked holds.picked found]
  exact worked

theorem withJobs_closeSlot (d : Desk) (jobs : List Job) (i : Nat) :
    ((d.withJobs jobs).closeSlot i).2 = (d.closeSlot i).withJobs jobs := by
  simp only [Pool.closeSlot, closeSlot, withJobs]
  cases d.slots[i]? <;> rfl

theorem closeSlot_frame (d : Desk) (i : Nat) :
    (d.closeSlot i).underway = d.underway ∧ (d.closeSlot i).session = d.session ∧
      (d.closeSlot i).slots.length = d.slots.length := by
  unfold closeSlot
  split
  · exact ⟨rfl, rfl, rfl⟩
  · exact ⟨rfl, rfl, List.length_set⟩

theorem withJobs_applyReply (d : Desk) (jobs : List Job) (reply : Reply) :
    ((d.withJobs jobs).applyReply reply).2 = (d.applyReply reply).withJobs jobs := by
  unfold Pool.applyReply applyReply
  cases reply.teardown with
  | none => rfl
  | some i => exact withJobs_closeSlot d jobs i

theorem applyReply_frame (d : Desk) (reply : Reply) :
    (d.applyReply reply).underway = d.underway ∧ (d.applyReply reply).session = d.session ∧
      (d.applyReply reply).slots.length = d.slots.length := by
  unfold applyReply
  cases reply.teardown with
  | none => exact ⟨rfl, rfl, rfl⟩
  | some i => exact closeSlot_frame d i

theorem Holds.applyReply (holds : Holds renderer d jobs s progress due) (reply : Reply) :
    Holds renderer (d.applyReply reply) jobs s progress due where
  picked := holds.picked
  others := by
    rw [(applyReply_frame d reply).1]
    exact holds.others

/-- The desk goes on with a submission at once if its wait takes no time. -/
theorem wait_proceeds {stage : Stage} {time : Nat} {next : Desk}
    (holds : Holds renderer d jobs s progress due)
    (onward : ∀ more, Holds renderer d more s (.waiting stage) d.session.now →
      Pool.Proceeds engine (d.withJobs more) (next.pool renderer)) :
    Pool.Proceeds engine
      ((d.withJobs jobs).await (s.jobAt renderer progress due) (.waiting stage) time)
      ((if time = 0 then next else d.await s stage time).pool renderer) := by
  split
  · next immediate =>
    obtain ⟨more, waits, holds⟩ := holds.await (.waiting stage) time
    rw [immediate] at holds
    rw [waits]
    exact onward more holds
  · rw [holds.await_eq_pool]

/-- A submission whose engine work has just ended brings its result next. -/
theorem done_proceeds {result : Result} (holds : Holds renderer d jobs s progress due)
    (inside : s.slot < d.slots.length) :
    Pool.Proceeds engine
      ((d.withJobs jobs).await (s.jobAt renderer progress due) (.done result) 0)
      ((d.commit s result).pool renderer) := by
  obtain ⟨more, waits, holds⟩ := holds.await (.done result) 0
  rw [waits]
  exact commit_proceeds holds (Or.inr rfl) inside

theorem takeSecond_proceeds {reply : Reply}
    (holds : Holds renderer d jobs s (.waiting (.second reply)) due)
    (elapsed : due ≤ d.session.now) (inside : s.slot < d.slots.length) :
    Pool.Proceeds engine (d.withJobs jobs) ((d.takeSecond s reply).pool renderer) := by
  have found := List.getElem?_eq_getElem inside
  have waited : ¬ (d.withJobs jobs).session.now < due := Nat.not_lt.mpr elapsed
  have worked : Pool.Proceeds engine (d.withJobs jobs) _ := work_proceeds holds found (by
    rw [Pool.work?, Submission.jobAt, if_neg waited])
  rw [withJobs_applyReply] at worked
  rw [← (applyReply_frame d reply).2.2] at inside
  exact worked.trans (done_proceeds (holds.applyReply reply) inside)

theorem takeFirst_proceeds {reply : Reply}
    (holds : Holds renderer d jobs s (.waiting (.first reply)) due)
    (elapsed : due ≤ d.session.now) (found : d.slots[s.slot]? = some slot) :
    Pool.Proceeds engine (d.withJobs jobs) ((d.takeFirst engine s slot.id reply).pool renderer) := by
  have waited : ¬ (d.withJobs jobs).session.now < due := Nat.not_lt.mpr elapsed
  have worked : Pool.Proceeds engine (d.withJobs jobs) _ := work_proceeds holds found (by
    rw [Pool.work?, Submission.jobAt, if_neg waited])
  rw [withJobs_applyReply] at worked
  refine worked.trans ?_
  have inside := (List.getElem?_eq_some_iff.mp found).1
  rw [← (applyReply_frame d reply).2.2] at inside
  unfold takeFirst Pool.takeFirst
  dsimp only
  cases Renderer.firstResult? reply.answer with
  | some result => exact done_proceeds (holds.applyReply reply) inside
  | none =>
    have holds := holds.applyReply reply
    exact wait_proceeds (d := { d.applyReply reply with session := _ })
      ⟨holds.picked, holds.others⟩ fun more holds => takeSecond_proceeds holds (Nat.le_refl _) inside

theorem callEngine_proceeds (holds : Holds renderer d jobs s (.waiting .debounce) due)
    (elapsed : due ≤ d.session.now) (found : d.slots[s.slot]? = some slot) :
    Pool.Proceeds engine (d.withJobs jobs)
      ((d.callEngine engine renderer s slot.id).pool renderer) := by
  have waited : ¬ (d.withJobs jobs).session.now < due := Nat.not_lt.mpr elapsed
  have worked : Pool.Proceeds engine (d.withJobs jobs) _ := work_proceeds holds found (by
    rw [Pool.work?, Submission.jobAt, if_neg waited])
  exact worked.trans (wait_proceeds (d := { d with session := _ }) ⟨holds.picked, holds.others⟩
    fun more holds => takeFirst_proceeds holds (Nat.le_refl _) found)

/-- A submission whose wait is over goes as far as the desk takes it. -/
theorem act_proceeds (holds : Holds renderer d jobs s (.waiting s.stage) s.due)
    (elapsed : s.due ≤ d.session.now) (inside : s.slot < d.slots.length) :
    Pool.Proceeds engine (d.withJobs jobs) ((d.act engine renderer s).pool renderer) := by
  have found := List.getElem?_eq_getElem inside
  unfold act
  rw [found]
  dsimp only
  cases stage : s.stage with
  | debounce =>
    rw [stage] at holds
    exact callEngine_proceeds holds elapsed found
  | first reply =>
    rw [stage] at holds
    exact takeFirst_proceeds holds elapsed found
  | second reply =>
    rw [stage] at holds
    exact takeSecond_proceeds holds elapsed inside

/-! ### Dropping what has been overtaken -/

theorem find?_filter_of_ne {m n : Nat} (different : m ≠ n) (jobs : List Job) :
    (jobs.filter fun k => k.number != n).find? (fun k => k.number == m) =
      jobs.find? fun k => k.number == m := by
  rw [List.find?_filter]
  congr 1
  funext k
  by_cases same : k.number = m
  · simp [same, different]
  · simp [same]

theorem leave_proceeds (picked : jobs.find? (fun k => k.number == s.number) = some (s.job renderer))
    (found : d.slots[s.slot]? = some slot) (stale : slot.generation ≠ s.token) :
    Pool.Proceeds engine (d.withJobs jobs)
      ((d.record s.number .superseded).withJobs (jobs.filter fun k => k.number != s.number)) := by
  have abandoned : (d.withJobs jobs).abandon? (s.job renderer) slot =
      some ([.ended s.number .superseded], (d.withJobs jobs).leave s.number .superseded) :=
    if_neg stale
  -- Its engine work may be over as well, so it has to look at the generation first.
  apply Pool.proceeds_of_step? (m := .select s.number true) rfl
  rw [Pool.step?, jobWithSlot?_of_picked picked found]
  exact congrArg (Option.or · _) abandoned

theorem leaveAll_proceeds (renderer : Renderer) (stale : List Submission)
    (distinct : (stale.map Submission.number).Nodup)
    (picked : ∀ s ∈ stale, jobs.find? (fun k => k.number == s.number) = some (s.job renderer))
    (overtaken : ∀ s ∈ stale, ∃ slot, d.slots[s.slot]? = some slot ∧ slot.generation ≠ s.token) :
    Pool.Proceeds engine (d.withJobs jobs)
      (Desk.withJobs
        { d with
          finished := d.finished ++ stale.map fun s => ⟨s.number, .superseded, d.session.now⟩ }
        (jobs.filter fun k => decide (k.number ∉ stale.map Submission.number))) := by
  induction stale generalizing d jobs with
  | nil =>
    simp only [List.map_nil, List.append_nil, List.not_mem_nil, not_false_eq_true, decide_true,
      List.filter_true]
    exact Relation.ReflTransGen.refl
  | cons s rest ih =>
    obtain ⟨fresh, distinct⟩ := List.nodup_cons.mp distinct
    obtain ⟨slot, found, stale⟩ := overtaken s List.mem_cons_self
    have left : Pool.Proceeds engine (d.withJobs jobs) _ :=
      leave_proceeds (picked s List.mem_cons_self) found stale
    have still : ∀ t ∈ rest, (jobs.filter fun k => k.number != s.number).find?
        (fun k => k.number == t.number) = some (t.job renderer) := by
      intro t member
      have different : t.number ≠ s.number := by
        intro same
        rw [← same] at fresh
        exact fresh (List.mem_map_of_mem member)
      rw [find?_filter_of_ne different]
      exact picked t (List.mem_cons_of_mem _ member)
    have later : Pool.Proceeds engine ((d.record s.number .superseded).withJobs
        (jobs.filter fun k => k.number != s.number)) _ :=
      ih distinct still fun t member => overtaken t (List.mem_cons_of_mem _ member)
    have kept : ((jobs.filter fun k => k.number != s.number).filter fun k =>
        decide (k.number ∉ rest.map Submission.number)) =
          jobs.filter fun k => decide (k.number ∉ (s :: rest).map Submission.number) := by
      rw [List.filter_filter]
      congr 1
      funext k
      by_cases same : k.number = s.number <;> simp [same]
    rw [kept] at later
    simp only [record, List.append_assoc] at later
    exact left.trans later

theorem filter_stale {underway : List Submission} {others : List Job} {current : Submission → Bool}
    (distinct : (underway.map Submission.number).Nodup)
    (apart : ∀ s ∈ underway, ∀ k ∈ others, s.number ≠ k.number) :
    ((underway.map (Submission.job renderer) ++ others).filter fun k =>
        decide (k.number ∉ (underway.filter fun s => !current s).map Submission.number)) =
      (underway.filter current).map (Submission.job renderer) ++ others := by
  rw [List.filter_append, List.filter_map]
  congr 1
  · congr 1
    apply List.filter_congr
    intro s member
    have dropped : s.number ∈ (underway.filter fun s => !current s).map Submission.number ↔
        current s = false := by
      constructor
      · intro named
        obtain ⟨t, stale, same⟩ := List.mem_map.mp named
        obtain ⟨inside, old⟩ := List.mem_filter.mp stale
        have equal := List.inj_on_of_nodup_map distinct inside member same
        rw [equal] at old
        simpa using old
      · intro old
        exact List.mem_map_of_mem (List.mem_filter.mpr ⟨member, by simp [old]⟩)
    have job : (s.job renderer).number = s.number := rfl
    simp only [Function.comp_apply, job, dropped]
    cases current s <;> rfl
  · apply List.filter_eq_self.mpr
    intro k other
    simp only [decide_eq_true_eq, List.mem_map, not_exists, not_and]
    exact fun s member => apart s (List.mem_of_mem_filter member) k other

/-- A pool with the submissions of a desk, and others, loses those that the desk drops. -/
theorem dropStale_proceeds {others : List Job}
    (orderly : (d.withJobs (d.underway.map (Submission.job renderer) ++ others)).Orderly) :
    Pool.Proceeds engine (d.withJobs (d.underway.map (Submission.job renderer) ++ others))
      (d.dropStale.withJobs (d.dropStale.underway.map (Submission.job renderer) ++ others)) := by
  have numbers : (d.underway.map (Submission.job renderer)).map Job.number =
      d.underway.map Submission.number := by
    rw [List.map_map]
    rfl
  have distinct := orderly.distinct
  rw [withJobs, List.map_append, numbers, List.nodup_append] at distinct
  obtain ⟨distinct, _, apart⟩ := distinct
  have left : Pool.Proceeds engine
      (d.withJobs (d.underway.map (Submission.job renderer) ++ others)) _ :=
    leaveAll_proceeds renderer (d.underway.filter fun s => !d.isCurrent s)
      (distinct.sublist (List.filter_sublist.map _)) ?_ ?_
  · rw [filter_stale distinct] at left
    · exact left
    · intro s member k other
      have mapped : s.number ∈ d.underway.map Submission.number := List.mem_map_of_mem member
      exact apart _ mapped _ (List.mem_map_of_mem other)
  · intro s member
    have inside := List.mem_of_mem_filter member
    exact Pool.job?_of_mem orderly (List.mem_append_left _ (List.mem_map_of_mem inside))
  · intro s member
    obtain ⟨inside, stale⟩ := List.mem_filter.mp member
    have bound : s.slot < d.slots.length :=
      orderly.inside _ (List.mem_append_left _ (List.mem_map_of_mem inside))
    refine ⟨_, List.getElem?_eq_getElem bound, fun same => ?_⟩
    simp [isCurrent, List.getElem?_eq_getElem bound, same] at stale

end Desk

end CatalogueViewer
