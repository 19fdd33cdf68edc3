import CatalogueViewer.Proofs.Render.Outlook

/-!
# Texts rendered side by side

The texts of a document are submitted in some order, each to the slot in its place, and nothing else
begins.  However the submissions get in each other's way, each of them commits what its text alone
comes to: `Course.onCourse`.  And they can always go on to the end: `Course.exists_all`.
-/

namespace CatalogueViewer.Pool

variable {engine : Engine} {r : Renderer} {texts : List String} {start p q : Pool}
  {started : List (Fin texts.length)} {j : Job}

/-- What has become of a pool since the texts in the places of `started` were submitted, in this
order.  No text is submitted twice. -/
inductive Course (engine : Engine) (r : Renderer) (texts : List String) (start : Pool) :
    List (Fin texts.length) → Pool → Prop where
  | start : Course engine r texts start [] start
  | submit {started : List (Fin texts.length)} {p q : Pool} {events : List Event}
      {i : Fin texts.length} (course : Course engine r texts start started p) (fresh : i ∉ started)
      (step : p.step? engine (.submit i r texts[i]) = some (events, q)) :
      Course engine r texts start (started ++ [i]) q
  | goOn {started : List (Fin texts.length)} {p q : Pool}
      (course : Course engine r texts start started p) (quiet : StepBy Move.isQuiet engine p q) :
      Course engine r texts start started q

theorem Course.proceeds (course : Course engine r texts start started p)
    (proceeds : Proceeds engine p q) : Course engine r texts start started q := by
  induction proceeds with
  | refl => exact course
  | tail _ quiet before => exact before.goOn quiet

theorem Course.runsBy (course : Course engine r texts start started p) :
    RunsBy Move.keepsOpen engine start p := by
  induction course with
  | start => exact .refl
  | submit _ _ step before => exact before.tail ⟨_, _, rfl, step⟩
  | goOn _ quiet before => exact before.tail (quiet.mono Move.keepsOpen_of_isQuiet)

theorem Course.leads (course : Course engine r texts start started p) : Leads engine start p :=
  RunsBy.leads course.runsBy

/-! ### What holds on the way -/

/-- A submission under way will come to what its text, in place `i`, is shown as. -/
structure Promises (texts : List String) (slots : List Slot) (i : Fin texts.length) (j : Job) :
    Prop where
  place : j.slot = i
  current : ∃ slot, slots[i.val]? = some slot ∧ slot.generation = j.token
  outlook : j.progress.outlook j.source = Preview.textView texts[i]

/-- A submission has come to what its text, in place `i`, is shown as. -/
def Keeps (texts : List String) (slots : List Slot) (i : Fin texts.length) (f : Finished) : Prop :=
  ∃ slot, slots[i.val]? = some slot ∧ f.outcome = .committed slot.result ∧
    slot.result.view = Preview.textView texts[i]

/-- Every text in a place of `started` has been submitted once, and nothing has come between. -/
structure OnCourse (texts : List String) (started : List (Fin texts.length)) (p : Pool) : Prop
    extends Undisturbed p where
  places : p.slots.length = texts.length
  distinct : started.Nodup
  submitted : p.submitted = started.length
  numbers : (p.jobs.map Job.number ++ p.finished.map Finished.number).Perm
    (List.range started.length)
  underway : ∀ j ∈ p.jobs, ∃ i, started[j.number]? = some i ∧ Promises texts p.slots i j
  ended : ∀ f ∈ p.finished, ∃ i, started[f.number]? = some i ∧ Keeps texts p.slots i f

theorem OnCourse.nodup_numbers (onCourse : OnCourse texts started p) :
    (p.jobs.map Job.number ++ p.finished.map Finished.number).Nodup :=
  onCourse.numbers.nodup_iff.mpr List.nodup_range

theorem OnCourse.orderly (onCourse : OnCourse texts started p) : Orderly p where
  numbered j member := by
    rw [onCourse.submitted, ← List.mem_range, ← onCourse.numbers.mem_iff]
    exact List.mem_append_left _ (List.mem_map_of_mem member)
  distinct := onCourse.nodup_numbers.of_append_left
  inside j member := by
    obtain ⟨i, -, promises⟩ := onCourse.underway j member
    rw [promises.place, onCourse.places]
    exact i.isLt

/-- Numbers stay what they are when a submission gives way to another one of its number. -/
theorem perm_numbers_filter {jobs : List Job} (distinct : (jobs.map Job.number).Nodup)
    (member : j ∈ jobs) :
    (j.number :: (jobs.filter fun k => k.number != j.number).map Job.number).Perm
      (jobs.map Job.number) := by
  have others : (jobs.filter fun k => k.number != j.number).map Job.number =
      (jobs.map Job.number).erase j.number := by
    rw [distinct.erase_eq_filter, List.filter_map]
    rfl
  rw [others]
  exact (List.perm_cons_erase (List.mem_map_of_mem member)).symm

theorem OnCourse.await (onCourse : OnCourse texts started p) (member : j ∈ p.jobs)
    {progress : Progress} (calm : progress.Calm)
    (outlook : progress.outlook j.source = j.progress.outlook j.source) (session : Session)
    (time : Nat) : OnCourse texts started ({ p with session := session }.await j progress time) where
  toUndisturbed := onCourse.toUndisturbed.await calm session j time
  places := onCourse.places
  distinct := onCourse.distinct
  submitted := onCourse.submitted
  numbers := by
    have same := perm_numbers_filter onCourse.orderly.distinct member
    refine .trans (.append_right _ ?_) onCourse.numbers
    rw [Pool.await, List.map_append]
    exact List.perm_append_comm.trans same
  underway := by
    intro k inside
    rcases List.mem_append.mp inside with other | same
    · exact onCourse.underway k (List.mem_filter.mp other).1
    · obtain rfl := List.mem_singleton.mp same
      obtain ⟨i, number, promises⟩ := onCourse.underway j member
      exact ⟨i, number, promises.place, promises.current, outlook.trans promises.outlook⟩
  ended := onCourse.ended

theorem number_inj {m n : Nat} {i : Fin texts.length} (distinct : started.Nodup)
    (one : started[m]? = some i) (other : started[n]? = some i) : m = n :=
  (List.getElem?_inj (List.getElem?_eq_some_iff.mp one).1 distinct).mp (one.trans other.symm)

theorem Promises.elsewhere {slots : List Slot} {i : Fin texts.length} {n : Nat}
    (promises : Promises texts slots i j) (other : n ≠ i) (slot : Slot) :
    Promises texts (slots.set n slot) i j where
  place := promises.place
  current := by
    rw [List.getElem?_set_ne other]
    exact promises.current
  outlook := promises.outlook

theorem Keeps.elsewhere {slots : List Slot} {i : Fin texts.length} {f : Finished} {n : Nat}
    (keeps : Keeps texts slots i f) (other : n ≠ i) (slot : Slot) :
    Keeps texts (slots.set n slot) i f := by
  unfold Keeps
  rw [List.getElem?_set_ne other]
  exact keeps

theorem OnCourse.accepts {slot : Slot} (onCourse : OnCourse texts started p) (member : j ∈ p.jobs)
    (found : p.slots[j.slot]? = some slot) : slot.accepts j.token = true := by
  obtain ⟨i, -, promises⟩ := onCourse.underway j member
  obtain ⟨same, here, generation⟩ := promises.current
  rw [promises.place, here] at found
  cases found
  exact Slot.accepts_iff.mpr ⟨onCourse.opened _ (List.mem_of_getElem? here), generation⟩

/-- A submission brings what was promised. -/
theorem OnCourse.bring {slot : Slot} {result : Result} (onCourse : OnCourse texts started p)
    (member : j ∈ p.jobs) (found : p.slots[j.slot]? = some slot)
    (brings : result.view = j.progress.outlook j.source) :
    OnCourse texts started (p.bring j slot result).2 := by
  obtain ⟨i, number, promises⟩ := onCourse.underway j member
  have accepted := onCourse.accepts member found
  have inside := (List.getElem?_eq_some_iff.mp found).1
  -- Other numbers stand for other places, whose slots stay as they are.
  have apart : ∀ {n : Nat} {k : Fin texts.length}, started[n]? = some k → n ≠ j.number →
      j.slot ≠ k := by
    rintro n k there other place
    rw [promises.place, Fin.val_inj] at place
    exact other (number_inj onCourse.distinct (place ▸ there) number)
  have left := perm_numbers_filter onCourse.orderly.distinct member
  have undisturbed := onCourse.toUndisturbed.bring (j := j) (List.mem_of_getElem? found) result
  simp only [Pool.bring, Slot.finish_of_accepts accepted, Pool.leave] at undisturbed ⊢
  constructor
  case toUndisturbed => exact undisturbed
  case places => exact List.length_set.trans onCourse.places
  case distinct => exact onCourse.distinct
  case submitted => exact onCourse.submitted
  case numbers =>
    refine .trans ?_ onCourse.numbers
    rw [List.map_append, ← List.append_assoc]
    exact List.perm_append_comm.trans (left.append_right _)
  case underway =>
    intro k remains
    obtain ⟨old, other⟩ := List.mem_filter.mp remains
    obtain ⟨place, there, promised⟩ := onCourse.underway k old
    exact ⟨place, there, promised.elsewhere (apart there (by simpa using other)) _⟩
  case ended =>
    intro f gone
    rcases List.mem_append.mp gone with before | now
    · obtain ⟨place, there, kept⟩ := onCourse.ended f before
      have other : f.number ≠ j.number := by
        intro same
        have disjoint := List.disjoint_of_nodup_append onCourse.nodup_numbers
        exact disjoint (List.mem_map_of_mem member) (same ▸ List.mem_map_of_mem before)
      exact ⟨place, there, kept.elsewhere (apart there other) _⟩
    · obtain rfl := List.mem_singleton.mp now
      have shown := List.getElem?_set_self
        (a := { slot with result := result, published := slot.published + 1 }) inside
      rw [promises.place] at shown ⊢
      exact ⟨i, number, _, shown, rfl, brings.trans promises.outlook⟩

/-! ### Moves -/

theorem OnCourse.submit {events : List Event} {i : Fin texts.length}
    (onCourse : OnCourse texts started p) (fresh : i ∉ started)
    (step : p.step? engine (.submit i r texts[i]) = some (events, q)) :
    OnCourse texts (started ++ [i]) q := by
  obtain ⟨slot, found, submits⟩ := Option.map_eq_some_iff.mp step
  have opened := onCourse.opened slot (List.mem_of_getElem? found)
  have inside := (List.getElem?_eq_some_iff.mp found).1
  have undisturbed := onCourse.toUndisturbed.submit (List.mem_of_getElem? found) i r texts[i]
  have next := submit_of_open opened p i r texts[i]
  obtain ⟨number, place, token, outlook, -⟩ := jobOf_spec p.submitted i (slot.generation + 1) r
    texts[i] p.session.now
  rw [submits] at next undisturbed
  dsimp only at next
  subst next
  -- The place is none of those before, and their numbers stay.
  have apart : ∀ {n : Nat} {k : Fin texts.length}, started[n]? = some k →
      i.val ≠ k ∧ (started ++ [i])[n]? = some k := by
    intro n k there
    refine ⟨fun same => fresh (Fin.ext same ▸ List.mem_of_getElem? there), ?_⟩
    rw [List.getElem?_append_left (List.getElem?_eq_some_iff.mp there).1, there]
  constructor
  case toUndisturbed => exact undisturbed
  case places => exact List.length_set.trans onCourse.places
  case distinct => exact onCourse.distinct.append (List.nodup_singleton i) (by simpa using fresh)
  case submitted => simp [onCourse.submitted]
  case numbers =>
    have length : (started ++ [i]).length = started.length + 1 := List.length_append
    rw [length, List.range_succ, List.map_append, List.map_singleton, number, List.append_assoc,
      onCourse.submitted]
    exact (List.perm_append_comm.append_left _).trans
      (List.append_assoc .. ▸ onCourse.numbers.append_right _)
  case underway =>
    intro k member
    rcases List.mem_append.mp member with old | new
    · obtain ⟨other, there, promises⟩ := onCourse.underway k old
      exact ⟨other, (apart there).2, promises.elsewhere (apart there).1 _⟩
    · obtain rfl := List.mem_singleton.mp new
      refine ⟨i, ?_, place, ?_, outlook⟩
      · rw [number, onCourse.submitted, List.getElem?_append_right (Nat.le_refl _), Nat.sub_self]
        rfl
      · exact ⟨_, List.getElem?_set_self inside, token.symm⟩
  case ended =>
    intro f gone
    obtain ⟨other, there, keeps⟩ := onCourse.ended f gone
    exact ⟨other, (apart there).2, keeps.elsewhere (apart there).1 _⟩

/-- What is done for a submission: it comes nearer to its end, or it ends and brings what was
promised. -/
inductive Onward (p q : Pool) : Prop where
  | nearer {j : Job} {progress : Progress} (member : j ∈ p.jobs)
      (advances : Advances p j progress q) : Onward p q
  | brings {j : Job} {slot : Slot} {result : Result} (member : j ∈ p.jobs)
      (found : p.slots[j.slot]? = some slot)
      (promised : result.view = j.progress.outlook j.source)
      (same : q = (p.bring j slot result).2) : Onward p q

theorem OnCourse.onward (onCourse : OnCourse texts started p)
    (step : StepBy Move.works Engine.preview p q) : Onward p q := by
  obtain ⟨m, events, works, step⟩ := step
  cases m with
  | submit | teardown | elapse => cases works
  | work number =>
    obtain ⟨⟨j, slot⟩, found, worked⟩ := Option.bind_eq_some_iff.mp step
    have member := (jobWithSlot?_eq_some found).1
    obtain ⟨-, progress, advances⟩ := work?_advances (onCourse.calm j member) worked
    exact .nearer member advances
  | settle number =>
    obtain ⟨⟨j, slot⟩, found, settled⟩ := Option.bind_eq_some_iff.mp step
    obtain ⟨member, -, place⟩ := jobWithSlot?_eq_some found
    obtain ⟨result, promised, same⟩ := exists_bring_of_settle? settled
    exact .brings member place promised same
  | select number watchFirst =>
    obtain ⟨⟨j, slot⟩, found, selected⟩ := Option.bind_eq_some_iff.mp step
    obtain ⟨member, -, place⟩ := jobWithSlot?_eq_some found
    rcases select?_cases selected with brought | abandoned
    · obtain ⟨result, promised, same⟩ := exists_bring_of_bring? brought
      exact .brings member place promised same
    · -- Nobody has overtaken it.
      have current := (Slot.accepts_iff.mp (onCourse.accepts member place)).2
      exact absurd current (abandon?_eq_some abandoned).1

theorem OnCourse.quietStep (onCourse : OnCourse texts started p)
    (quiet : StepBy Move.isQuiet Engine.preview p q) : OnCourse texts started q := by
  obtain ⟨m, events, quiet, step⟩ := quiet
  cases m with
  | submit | teardown => cases quiet
  | elapse time =>
    cases step
    exact ⟨⟨onCourse.opened, onCourse.calm⟩, onCourse.places, onCourse.distinct,
      onCourse.submitted, onCourse.numbers, onCourse.underway, onCourse.ended⟩
  | work | settle | select =>
    obtain ⟨member, advances⟩ | ⟨member, found, promised, rfl⟩ :=
      onCourse.onward ⟨_, events, rfl, step⟩
    · obtain ⟨session, time, rfl⟩ := advances.awaits
      exact onCourse.await member advances.calm advances.outlook session time
    · exact onCourse.bring member found promised

/-- A pool with nothing under way and an open slot for each text. -/
structure Ready (texts : List String) (p : Pool) : Prop where
  places : p.slots.length = texts.length
  opened : ∀ slot ∈ p.slots, slot.closed = false
  jobs : p.jobs = []
  finished : p.finished = []
  submitted : p.submitted = 0

theorem Ready.onCourse (ready : Ready texts p) : OnCourse texts [] p where
  opened := ready.opened
  calm := by rw [ready.jobs]; exact fun _ member => nomatch member
  places := ready.places
  distinct := List.nodup_nil
  submitted := ready.submitted
  numbers := by rw [ready.jobs, ready.finished]; exact .nil
  underway := by rw [ready.jobs]; exact fun _ member => nomatch member
  ended := by rw [ready.finished]; exact fun _ member => nomatch member

theorem Course.onCourse (course : Course Engine.preview r texts start started p)
    (ready : Ready texts start) : OnCourse texts started p := by
  induction course with
  | start => exact ready.onCourse
  | submit _ fresh step before => exact before.submit fresh step
  | goOn _ quiet before => exact before.quietStep quiet

/-! ### Going on to the end -/

/-- The number of moves that these submissions need, apart from the passing of time. -/
def movesOf (jobs : List Job) : Nat := (jobs.map fun j => j.progress.moves).sum

theorem moves_pos (progress : Progress) : 0 < progress.moves := by
  cases progress <;> exact Nat.succ_pos _

theorem movesOf_append (xs ys : List Job) : movesOf (xs ++ ys) = movesOf xs + movesOf ys := by
  rw [movesOf, List.map_append, List.sum_append]
  rfl

theorem movesOf_filter_add_le (member : j ∈ p.jobs) :
    movesOf (p.jobs.filter fun k => k.number != j.number) + j.progress.moves ≤ movesOf p.jobs :=
  sum_filter_add_le _ _ member (by simp)

theorem movesOf_bring_lt (member : j ∈ p.jobs) (slot : Slot) (result : Result) :
    movesOf (p.bring j slot result).2.jobs < movesOf p.jobs := by
  have others := movesOf_filter_add_le member
  have some := moves_pos j.progress
  exact Nat.lt_of_lt_of_le (Nat.lt_add_of_pos_right some) others

theorem Advances.movesOf_lt {progress : Progress} (advances : Advances p j progress q)
    (member : j ∈ p.jobs) : movesOf q.jobs < movesOf p.jobs := by
  obtain ⟨session, time, rfl⟩ := advances.awaits
  have others := movesOf_filter_add_le member
  have single : movesOf [{ j with progress := progress, due := session.now + time }] =
      progress.moves := Nat.add_zero _
  have fewer := advances.fewer
  rw [Pool.await, movesOf_append, single]
  dsimp only
  omega

/-- No submission goes on for ever. -/
theorem Onward.movesOf_lt (onward : Onward p q) : movesOf q.jobs < movesOf p.jobs := by
  obtain ⟨member, advances⟩ | ⟨member, -, -, rfl⟩ := onward
  · exact advances.movesOf_lt member
  · exact movesOf_bring_lt member _ _

theorem exists_work? (engine : Engine) {stage : Stage} (waits : j.progress = .waiting stage)
    (due : j.due ≤ p.session.now) (id : SlotId) :
    ∃ events q, p.work? engine j id = some (events, q) := by
  unfold work?
  rw [if_neg (Nat.not_lt.mpr due), waits]
  cases stage <;> exact ⟨_, _, rfl⟩

/-- The pool after some time. -/
def elapse (p : Pool) (time : Nat) : Pool := { p with session := p.session.elapse time }

theorem elapse_proceeds (p : Pool) (time : Nat) : Proceeds engine p (p.elapse time) :=
  proceeds_of_step? (m := .elapse time) rfl rfl

/-- Every submission can go on, if need be after some time. -/
theorem Orderly.exists_step (orderly : Orderly p) (member : j ∈ p.jobs) (engine : Engine) :
    ∃ time q, StepBy Move.works engine (p.elapse time) q := by
  obtain ⟨slot, place, found⟩ := jobWithSlot?_of_mem orderly member
  have still : ∀ time, (p.elapse time).jobWithSlot? j.number = some (j, slot) := fun _ => found
  cases stage : j.progress with
  | settled result =>
    have step : (p.elapse 0).step? engine (.settle j.number) =
        some ((p.elapse 0).bring j slot result) := by
      simp only [step?, still, Option.bind_some, settle?, stage]
    exact ⟨0, _, _, _, rfl, step⟩
  | done result =>
    have step : (p.elapse 0).step? engine (.select j.number false) =
        some ((p.elapse 0).bring j slot result) := by
      simp only [step?, still, Option.bind_some, select?, bring?, stage]
      rfl
    exact ⟨0, _, _, _, rfl, step⟩
  | waiting stage =>
    have due : j.due ≤ (p.elapse (j.due - p.session.now)).session.now := by
      simp only [elapse, Session.elapse]
      omega
    obtain ⟨events, q, worked⟩ := exists_work? engine ‹_› due slot.id
    refine ⟨j.due - p.session.now, q, .work j.number, events, rfl, ?_⟩
    rw [step?, still]
    exact worked

theorem OnCourse.proceeds (onCourse : OnCourse texts started p)
    (proceeds : Proceeds Engine.preview p q) : OnCourse texts started q := by
  induction proceeds with
  | refl => exact onCourse
  | tail _ quiet before => exact before.quietStep quiet

theorem OnCourse.exists_idle (onCourse : OnCourse texts started p) :
    ∃ q, Proceeds Engine.preview p q ∧ q.jobs = [] := by
  induction left : movesOf p.jobs using Nat.strongRecOn generalizing p with
  | ind n ih =>
    cases jobs : p.jobs with
    | nil => exact ⟨p, .refl, jobs⟩
    | cons j rest =>
      obtain ⟨time, q, step⟩ := onCourse.orderly.exists_step (j := j) (by simp [jobs])
        Engine.preview
      have waited : Proceeds Engine.preview p (p.elapse time) := elapse_proceeds p time
      have worked := waited.tail (step.mono Move.isQuiet_of_works)
      have fewer := ((onCourse.proceeds waited).onward step).movesOf_lt
      obtain ⟨s, onward, idle⟩ := ih _ (left ▸ fewer) (onCourse.proceeds worked) rfl
      exact ⟨s, worked.trans onward, idle⟩

theorem OnCourse.exists_submit (onCourse : OnCourse texts started p) (engine : Engine)
    (i : Fin texts.length) (r : Renderer) :
    ∃ events q, p.step? engine (.submit i r texts[i]) = some (events, q) := by
  have inside : i < p.slots.length := by
    rw [onCourse.places]
    exact i.isLt
  have found := List.getElem?_eq_getElem inside
  exact ⟨_, _, congrArg (Option.map fun slot => p.submit i slot r texts[i]) found⟩

theorem Course.exists_submitAll (ready : Ready texts start)
    (course : Course Engine.preview r texts start started p) {rest : List (Fin texts.length)}
    (distinct : (started ++ rest).Nodup) :
    ∃ q, Leads Engine.preview p q ∧ Course Engine.preview r texts start (started ++ rest) q := by
  induction rest generalizing started p with
  | nil => exact ⟨p, .refl p, (List.append_nil started).symm ▸ course⟩
  | cons i rest ih =>
    rw [List.append_cons] at distinct ⊢
    have fresh : i ∉ started := by
      have apart := List.disjoint_of_nodup_append distinct.of_append_left
      exact fun member => apart member (List.mem_singleton.mpr rfl)
    obtain ⟨events, q, step⟩ := (course.onCourse ready).exists_submit Engine.preview i r
    obtain ⟨s, onward, all⟩ := ih (course.submit fresh step) distinct
    exact ⟨s, (leads_of_step? step).trans onward, all⟩

/-- Whatever has been submitted so far, the other texts can be submitted in any order, and then all
submissions can go on to their ends. -/
theorem Course.exists_all (ready : Ready texts start)
    (course : Course Engine.preview r texts start started p) {rest : List (Fin texts.length)}
    (all : (started ++ rest).Perm (List.finRange texts.length)) :
    ∃ q, Leads Engine.preview p q ∧ Course Engine.preview r texts start (started ++ rest) q ∧
      q.jobs = [] := by
  have distinct := all.nodup_iff.mpr (List.nodup_finRange _)
  obtain ⟨q, submitted, course⟩ := course.exists_submitAll ready distinct
  obtain ⟨s, proceeds, idle⟩ := (course.onCourse ready).exists_idle
  exact ⟨s, submitted.trans proceeds.leads, course.proceeds proceeds, idle⟩

/-! ### The end -/

/-- The outcome of a submission that has ended. -/
def outcomeOf (p : Pool) (number : Nat) : Outcome :=
  match p.finished.find? fun f => f.number == number with
  | some f => f.outcome
  | none => .superseded

/-- Once all has ended, each text has committed what it alone comes to. -/
theorem OnCourse.keeps (onCourse : OnCourse texts started p) (idle : p.jobs = [])
    {i : Fin texts.length} (member : i ∈ started) :
    ∃ slot, p.slots[i.val]? = some slot ∧
      p.outcomeOf (started.idxOf i) = .committed slot.result ∧
      slot.result.view = Preview.textView texts[i] := by
  have inside : started.idxOf i < started.length := List.idxOf_lt_length_of_mem member
  have there : started[started.idxOf i]? = some i := List.getElem?_idxOf member
  have gone : started.idxOf i ∈ p.finished.map Finished.number := by
    have numbers := onCourse.numbers
    rw [idle] at numbers
    exact numbers.mem_iff.mpr (List.mem_range.mpr inside)
  obtain ⟨f, ended, number⟩ := List.mem_map.mp gone
  have some : (p.finished.find? fun f => f.number == started.idxOf i).isSome :=
    List.find?_isSome.mpr ⟨f, ended, by simp [number]⟩
  obtain ⟨g, first⟩ := Option.isSome_iff_exists.mp some
  have same : g.number = started.idxOf i := by simpa using List.find?_some first
  obtain ⟨k, place, slot, shown, committed, view⟩ :=
    onCourse.ended g (List.mem_of_find?_eq_some first)
  rw [same, there] at place
  cases place
  refine ⟨slot, shown, ?_, view⟩
  rw [outcomeOf, first]
  exact committed

end CatalogueViewer.Pool
