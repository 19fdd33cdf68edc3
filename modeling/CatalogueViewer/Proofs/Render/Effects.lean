import CatalogueViewer.Proofs.Render.Interleaving
import Mathlib.Algebra.GroupWithZero.Nat
import Mathlib.Data.List.Nodup
import Mathlib.Logic.Relation

/-!
# What happens in a pool

`step?_effect` says everything that a move can do to the slots and the submissions of a pool, and
what is noticed of it; `run?_induction` carries along a run what every effect preserves.
-/

namespace CatalogueViewer

theorem sum_filter_le {α : Type} (weight : α → Nat) (keep : α → Bool) (xs : List α) :
    ((xs.filter keep).map weight).sum ≤ (xs.map weight).sum := by
  induction xs with
  | nil => exact Nat.le_refl 0
  | cons x rest ih =>
    rw [List.filter_cons, List.map_cons, List.sum_cons]
    split
    · rw [List.map_cons, List.sum_cons]
      exact Nat.add_le_add_left ih _
    · exact Nat.le_add_left_of_le ih

theorem sum_filter_add_le {α : Type} (weight : α → Nat) (keep : α → Bool) {xs : List α} {x : α}
    (member : x ∈ xs) (leaves : keep x = false) :
    ((xs.filter keep).map weight).sum + weight x ≤ (xs.map weight).sum := by
  obtain ⟨before, after, rfl⟩ := List.append_of_mem member
  have first := sum_filter_le weight keep before
  have later := sum_filter_le weight keep after
  rw [List.filter_append, List.filter_cons_of_neg (by simp [leaves]), List.map_append,
    List.sum_append, List.map_append, List.sum_append, List.map_cons, List.sum_cons]
  omega

namespace Pool

variable (engine : Engine)

/-! ### What one move does -/

/-- Every submission of `q` is one of `p`, on the same slot and with the same token. -/
structure Inherits (p q : Pool) : Prop where
  known : ∀ j ∈ q.jobs, ∃ k ∈ p.jobs, k.number = j.number ∧ k.slot = j.slot ∧ k.token = j.token
  distinct : (p.jobs.map Job.number).Nodup → (q.jobs.map Job.number).Nodup

/-- Everything that a move can do to the slots, with what is noticed of it. -/
inductive Effect (p q : Pool) : List Event → Prop where
  | silent (slots : q.slots = p.slots) (submitted : q.submitted = p.submitted)
      (inherits : Inherits p q) : Effect p q []
  | tornDown {i : Nat} {slot : Slot} (found : p.slots[i]? = some slot)
      (slots : q.slots = p.slots.set i slot.teardown) (submitted : q.submitted = p.submitted)
      (inherits : Inherits p q) : Effect p q [.tornDown i]
  | refused {i : Nat} {slot : Slot} (found : p.slots[i]? = some slot) (closed : slot.closed = true)
      (slots : q.slots = p.slots) (submitted : q.submitted = p.submitted + 1)
      (inherits : Inherits p q) : Effect p q [.ended p.submitted .superseded]
  | began {i token : Nat} {slot begun : Slot} (j : Job) (found : p.slots[i]? = some slot)
      (accepted : slot.begin? = some (token, begun)) (slots : q.slots = p.slots.set i begun)
      (submitted : q.submitted = p.submitted + 1) (jobs : q.jobs = p.jobs ++ [j])
      (number : j.number = p.submitted) (place : j.slot = i) (held : j.token = token) :
      Effect p q [.began p.submitted i]
  | committed {j : Job} {slot : Slot} {result : Result} (member : j ∈ p.jobs)
      (found : p.slots[j.slot]? = some slot) (accepted : slot.accepts j.token = true)
      (slots : q.slots =
        p.slots.set j.slot { slot with result := result, published := slot.published + 1 })
      (submitted : q.submitted = p.submitted)
      (jobs : q.jobs = p.jobs.filter fun k => k.number != j.number) :
      Effect p q [.ended j.number (.committed result)]
  | overtaken {j : Job} {slot : Slot} (member : j ∈ p.jobs) (found : p.slots[j.slot]? = some slot)
      (stale : slot.accepts j.token = false) (slots : q.slots = p.slots)
      (submitted : q.submitted = p.submitted)
      (jobs : q.jobs = p.jobs.filter fun k => k.number != j.number) :
      Effect p q [.ended j.number .superseded]

theorem inherits_of_sublist {p q : Pool} (jobs : q.jobs.Sublist p.jobs) : Inherits p q where
  known := fun j member => ⟨j, jobs.subset member, rfl, rfl, rfl⟩
  distinct := fun distinct => distinct.sublist (jobs.map Job.number)

theorem await_inherits {p q : Pool} {j : Job} (member : j ∈ p.jobs) (jobs : q.jobs = p.jobs)
    (progress : Progress) (time : Nat) : Inherits p (q.await j progress time) := by
  constructor
  · intro k inside
    simp only [await, jobs, List.mem_append, List.mem_filter, List.mem_singleton] at inside
    rcases inside with ⟨old, _⟩ | same
    · exact ⟨k, old, rfl, rfl, rfl⟩
    · subst same
      exact ⟨j, member, rfl, rfl, rfl⟩
  · intro distinct
    simp only [await, jobs, List.map_append, List.map_cons, List.map_nil]
    rw [List.nodup_append]
    refine ⟨distinct.sublist (List.filter_sublist.map _), by simp, fun n old m new same => ?_⟩
    obtain ⟨k, inside, number⟩ := List.mem_map.mp old
    have other : k.number ≠ j.number := by simpa using (List.mem_filter.mp inside).2
    have equal := List.mem_singleton.mp new
    omega

/-- Nothing has happened to the pool, or one of its slots has been closed. -/
inductive MayClose (p : Pool) : List Event × Pool → Prop where
  | nothing : MayClose p ([], p)
  | closed {i : Nat} {slot : Slot} (found : p.slots[i]? = some slot) :
      MayClose p ([.tornDown i], { p with slots := p.slots.set i slot.teardown })

theorem closeSlot_mayClose (p : Pool) (i : Nat) : MayClose p (p.closeSlot i) := by
  unfold closeSlot
  split
  · exact .nothing
  · next slot found => exact .closed found

theorem applyReply_mayClose (p : Pool) (reply : Reply) : MayClose p (p.applyReply reply) := by
  unfold applyReply
  split
  · exact .nothing
  · exact closeSlot_mayClose p _

theorem MayClose.effect {p q r : Pool} {events : List Event} (change : MayClose p (events, r))
    (slots : q.slots = r.slots) (submitted : q.submitted = r.submitted) (inherits : Inherits p q) :
    Effect p q events := by
  cases change with
  | nothing => exact .silent slots submitted inherits
  | closed found => exact .tornDown found slots submitted inherits

theorem MayClose.jobs {p r : Pool} {events : List Event} (change : MayClose p (events, r)) :
    r.jobs = p.jobs := by
  cases change <;> rfl

theorem takeFirst_eq_await (p : Pool) (j : Job) (id : SlotId)
    (answer : Except EngineError Drawing) :
    ∃ session progress time,
      p.takeFirst engine j id answer = { p with session := session }.await j progress time := by
  unfold takeFirst
  split
  · exact ⟨p.session, _, _, rfl⟩
  · exact ⟨_, _, _, rfl⟩

/-- Work leads to the next wait; meanwhile the engine may have closed a slot. -/
theorem work?_eq_await {p q : Pool} {j : Job} {id : SlotId} {events : List Event}
    (worked : p.work? engine j id = some (events, q)) :
    ∃ r session progress time, MayClose p (events, r) ∧
      q = { r with session := session }.await j progress time := by
  unfold work? at worked
  split at worked
  · cases worked
  · split at worked
    · cases worked
      exact ⟨p, _, _, _, .nothing, rfl⟩
    · next reply _ =>
      obtain ⟨session, progress, time, same⟩ :=
        takeFirst_eq_await engine (p.applyReply reply).2 j id reply.answer
      cases worked
      exact ⟨_, session, progress, time, applyReply_mayClose p reply, same⟩
    · next reply _ =>
      cases worked
      exact ⟨_, _, _, _, applyReply_mayClose p reply, rfl⟩
    · cases worked
    · cases worked

theorem work?_effect {p q : Pool} {j : Job} {id : SlotId} {events : List Event}
    (member : j ∈ p.jobs) (worked : p.work? engine j id = some (events, q)) :
    Effect p q events := by
  obtain ⟨r, session, progress, time, change, same⟩ := work?_eq_await engine worked
  subst same
  exact change.effect rfl rfl (await_inherits (q := { r with session := session }) member
    change.jobs progress time)

theorem submit_effect {p : Pool} {i : Nat} {slot : Slot} (found : p.slots[i]? = some slot)
    (renderer : Renderer) (text : String) :
    Effect p (p.submit i slot renderer text).2 (p.submit i slot renderer text).1 := by
  unfold submit
  cases accepted : slot.begin? with
  | none =>
    exact .refused found (Slot.begin?_eq_none_iff.mp accepted) rfl rfl
      (inherits_of_sublist List.filter_sublist)
  | some begun =>
    obtain ⟨token, begun⟩ := begun
    refine .began _ found accepted rfl rfl rfl ?_ ?_ ?_
    all_goals
      unfold jobOf
      split <;> rfl

theorem set_same {slots : List Slot} {i : Nat} {slot : Slot} (found : slots[i]? = some slot) :
    slots.set i slot = slots := by
  obtain ⟨inside, same⟩ := List.getElem?_eq_some_iff.mp found
  subst same
  exact List.set_getElem_self inside

theorem bring_effect {p : Pool} {j : Job} {slot : Slot} (member : j ∈ p.jobs)
    (found : p.slots[j.slot]? = some slot) (result : Result) :
    Effect p (p.bring j slot result).2 (p.bring j slot result).1 := by
  unfold bring
  cases accepted : slot.accepts j.token with
  | true =>
    simp only [Slot.finish_of_accepts accepted]
    exact .committed member found accepted rfl rfl rfl
  | false =>
    simp only [Slot.finish_of_stale accepted]
    exact .overtaken member found accepted (set_same found) rfl rfl

theorem abandon?_effect {p q : Pool} {j : Job} {slot : Slot} {events : List Event}
    (member : j ∈ p.jobs) (found : p.slots[j.slot]? = some slot)
    (abandoned : p.abandon? j slot = some (events, q)) : Effect p q events := by
  have changed (differs : ¬ slot.generation = j.token) : slot.accepts j.token = false := by
    simp [Slot.accepts, differs]
  unfold abandon? at abandoned
  split at abandoned
  · cases abandoned
  all_goals
    split at abandoned
    · cases abandoned
    · next differs =>
      cases abandoned
      exact .overtaken member found (changed differs) rfl rfl rfl

theorem bring?_effect {p q : Pool} {j : Job} {slot : Slot} {events : List Event}
    (member : j ∈ p.jobs) (found : p.slots[j.slot]? = some slot)
    (brought : p.bring? j slot = some (events, q)) : Effect p q events := by
  unfold bring? at brought
  split at brought
  · next result _ =>
    have effect := bring_effect member found result
    rw [Option.some.inj brought] at effect
    exact effect
  · cases brought
  · cases brought

theorem settle?_effect {p q : Pool} {j : Job} {slot : Slot} {events : List Event}
    (member : j ∈ p.jobs) (found : p.slots[j.slot]? = some slot)
    (settled : p.settle? j slot = some (events, q)) : Effect p q events := by
  unfold settle? at settled
  split at settled
  · next result _ =>
    have effect := bring_effect member found result
    rw [Option.some.inj settled] at effect
    exact effect
  · cases settled
  · cases settled

theorem select?_cases {p q : Pool} {j : Job} {slot : Slot} {watchFirst : Bool}
    {events : List Event} (selected : p.select? j slot watchFirst = some (events, q)) :
    p.bring? j slot = some (events, q) ∨ p.abandon? j slot = some (events, q) := by
  unfold select? at selected
  split at selected
  · rcases Option.or_eq_some_iff.mp selected with first | ⟨_, second⟩
    · exact Or.inr first
    · exact Or.inl second
  · rcases Option.or_eq_some_iff.mp selected with first | ⟨_, second⟩
    · exact Or.inl first
    · exact Or.inr second

theorem jobWithSlot?_eq_some {p : Pool} {number : Nat} {j : Job} {slot : Slot}
    (found : p.jobWithSlot? number = some (j, slot)) :
    j ∈ p.jobs ∧ j.number = number ∧ p.slots[j.slot]? = some slot := by
  obtain ⟨k, picked, rest⟩ := Option.bind_eq_some_iff.mp found
  obtain ⟨shown, place, same⟩ := Option.bind_eq_some_iff.mp rest
  cases same
  exact ⟨List.mem_of_find?_eq_some picked, by simpa using List.find?_some picked, place⟩

theorem step?_effect {p q : Pool} {m : Move} {events : List Event}
    (step : p.step? engine m = some (events, q)) : Effect p q events := by
  cases m with
  | submit i renderer text =>
    obtain ⟨slot, found, same⟩ := Option.map_eq_some_iff.mp step
    have effect := submit_effect found renderer text
    rw [same] at effect
    exact effect
  | teardown i =>
    have change := closeSlot_mayClose p i
    rw [Option.some.inj step] at change
    exact change.effect rfl (by cases change <;> rfl)
      (inherits_of_sublist (by rw [change.jobs]))
  | work number =>
    obtain ⟨⟨j, slot⟩, found, worked⟩ := Option.bind_eq_some_iff.mp step
    exact work?_effect engine (jobWithSlot?_eq_some found).1 worked
  | settle number =>
    obtain ⟨⟨j, slot⟩, found, settled⟩ := Option.bind_eq_some_iff.mp step
    obtain ⟨member, _, place⟩ := jobWithSlot?_eq_some found
    exact settle?_effect member place settled
  | select number watchFirst =>
    obtain ⟨⟨j, slot⟩, found, selected⟩ := Option.bind_eq_some_iff.mp step
    obtain ⟨member, _, place⟩ := jobWithSlot?_eq_some found
    rcases select?_cases selected with brought | abandoned
    · exact bring?_effect member place brought
    · exact abandon?_effect member place abandoned
  | elapse time =>
    cases step
    exact .silent rfl rfl (inherits_of_sublist (List.Sublist.refl _))

/-- What every effect preserves, given all that has happened, a run preserves. -/
theorem run?_induction {P : List Event → Pool → Prop} {moves : List Move} {p q : Pool}
    {events : List Event} (past : List Event)
    (preserved : ∀ past p q events, Effect p q events → P past p → P (past ++ events) q)
    (run : p.run? engine moves = some (events, q)) (start : P past p) : P (past ++ events) q := by
  induction moves generalizing p past events with
  | nil =>
    cases run
    rw [List.append_nil]
    exact start
  | cons m rest ih =>
    obtain ⟨⟨first, next⟩, step, run⟩ := Option.bind_eq_some_iff.mp run
    obtain ⟨⟨more, last⟩, run, same⟩ := Option.bind_eq_some_iff.mp run
    cases same
    rw [← List.append_assoc]
    exact ih _ run (preserved past p next first (step?_effect engine step) start)

/-! ### Submissions in a pool -/

theorem Effect.submitted_le {p q : Pool} {events : List Event} (effect : Effect p q events) :
    p.submitted ≤ q.submitted := by
  cases effect <;> omega

/-- Whoever is under way was there before, or has just begun. -/
theorem Effect.job {p q : Pool} {events : List Event} (effect : Effect p q events) {j : Job}
    (member : j ∈ q.jobs) :
    (∃ k ∈ p.jobs, k.number = j.number ∧ k.slot = j.slot ∧ k.token = j.token) ∨
      (j.number = p.submitted ∧ q.submitted = p.submitted + 1 ∧ j.slot < p.slots.length) := by
  cases effect with
  | silent _ _ inherits => exact Or.inl (inherits.known j member)
  | tornDown _ _ _ inherits => exact Or.inl (inherits.known j member)
  | refused _ _ _ _ inherits => exact Or.inl (inherits.known j member)
  | began new found _ _ submitted jobs number place =>
    rw [jobs] at member
    rcases List.mem_append.mp member with old | fresh
    · exact Or.inl ⟨j, old, rfl, rfl, rfl⟩
    · have same := List.mem_singleton.mp fresh
      subst same place
      exact Or.inr ⟨number, submitted, (List.getElem?_eq_some_iff.mp found).1⟩
  | committed _ _ _ _ _ jobs =>
    rw [jobs] at member
    exact Or.inl ⟨j, (List.mem_filter.mp member).1, rfl, rfl, rfl⟩
  | overtaken _ _ _ _ _ jobs =>
    rw [jobs] at member
    exact Or.inl ⟨j, (List.mem_filter.mp member).1, rfl, rfl, rfl⟩

theorem Effect.length_slots {p q : Pool} {events : List Event} (effect : Effect p q events) :
    q.slots.length = p.slots.length := by
  cases effect with
  | silent slots => rw [slots]
  | tornDown _ slots => rw [slots, List.length_set]
  | refused _ _ slots => rw [slots]
  | began _ _ _ slots => rw [slots, List.length_set]
  | committed _ _ _ slots => rw [slots, List.length_set]
  | overtaken _ _ _ slots => rw [slots]

/-- Every submission in the pool has got a number of its own from it, and has a slot. -/
structure Orderly (p : Pool) : Prop where
  numbered : ∀ j ∈ p.jobs, j.number < p.submitted
  distinct : (p.jobs.map Job.number).Nodup
  inside : ∀ j ∈ p.jobs, j.slot < p.slots.length

theorem orderly_of_no_jobs {p : Pool} (none : p.jobs = []) : Orderly p := by
  constructor <;> simp [none]

theorem Effect.orderly {p q : Pool} {events : List Event} (effect : Effect p q events)
    (orderly : Orderly p) : Orderly q where
  numbered := by
    intro j member
    rcases effect.job member with ⟨k, old, same, _⟩ | ⟨fresh, submitted, _⟩
    · have bound := orderly.numbered k old
      have rises := effect.submitted_le
      omega
    · omega
  distinct := by
    cases effect with
    | silent _ _ inherits => exact inherits.distinct orderly.distinct
    | tornDown _ _ _ inherits => exact inherits.distinct orderly.distinct
    | refused _ _ _ _ inherits => exact inherits.distinct orderly.distinct
    | began j _ _ _ _ jobs number =>
      rw [jobs, List.map_append, List.nodup_append]
      refine ⟨orderly.distinct, by simp, fun n old m new same => ?_⟩
      obtain ⟨k, inside, rfl⟩ := List.mem_map.mp old
      have bound := orderly.numbered k inside
      have equal : m = j.number := List.mem_singleton.mp new
      omega
    | committed _ _ _ _ _ jobs =>
      rw [jobs]
      exact orderly.distinct.sublist (List.filter_sublist.map _)
    | overtaken _ _ _ _ _ jobs =>
      rw [jobs]
      exact orderly.distinct.sublist (List.filter_sublist.map _)
  inside := by
    intro j member
    rw [effect.length_slots]
    rcases effect.job member with ⟨k, old, _, same, _⟩ | ⟨_, _, bound⟩
    · rw [← same]
      exact orderly.inside k old
    · exact bound

theorem job?_of_mem {p : Pool} (orderly : Orderly p) {j : Job} (member : j ∈ p.jobs) :
    p.job? j.number = some j := by
  have some : (p.job? j.number).isSome := List.find?_isSome.mpr ⟨j, member, by simp⟩
  obtain ⟨k, picked⟩ := Option.isSome_iff_exists.mp some
  have number : k.number = j.number := by simpa using List.find?_some picked
  have same := List.inj_on_of_nodup_map orderly.distinct (List.mem_of_find?_eq_some picked) member
    number
  rw [picked, same]

theorem jobWithSlot?_of_mem {p : Pool} (orderly : Orderly p) {j : Job} (member : j ∈ p.jobs) :
    ∃ slot, p.slots[j.slot]? = some slot ∧ p.jobWithSlot? j.number = some (j, slot) := by
  have found := List.getElem?_eq_getElem (orderly.inside j member)
  refine ⟨_, found, ?_⟩
  rw [jobWithSlot?, job?_of_mem orderly member]
  simp [found]

/-! ### Runs -/

/-- Some run of moves leads from one pool to the other. -/
def Leads (engine : Engine) (p q : Pool) : Prop :=
  ∃ moves events, p.run? engine moves = some (events, q)

variable {engine : Engine} {p q r : Pool} {events : List Event}

theorem Leads.refl (p : Pool) : Leads engine p p := ⟨[], [], rfl⟩

theorem run?_append {first second : List Move} {early late : List Event}
    (run : p.run? engine first = some (early, q)) (onward : q.run? engine second = some (late, r)) :
    p.run? engine (first ++ second) = some (early ++ late, r) := by
  induction first generalizing p early with
  | nil =>
    cases run
    exact onward
  | cons m rest ih =>
    obtain ⟨⟨now, next⟩, step, run⟩ := Option.bind_eq_some_iff.mp run
    obtain ⟨⟨more, last⟩, run, same⟩ := Option.bind_eq_some_iff.mp run
    cases same
    rw [List.append_assoc, List.cons_append, run?, step]
    simp [ih run]

theorem Leads.trans (first : Leads engine p q) (second : Leads engine q r) : Leads engine p r := by
  obtain ⟨early, before, run⟩ := first
  obtain ⟨late, after, onward⟩ := second
  exact ⟨early ++ late, before ++ after, run?_append run onward⟩

theorem leads_of_step? {m : Move} (step : p.step? engine m = some (events, q)) :
    Leads engine p q := by
  refine ⟨[m], events ++ [], ?_⟩
  rw [run?, step]
  rfl

/-- The move neither begins a submission nor closes a slot. -/
def Move.isQuiet : Move → Bool
  | .submit .. | .teardown _ => false
  | .work _ | .settle _ | .select .. | .elapse _ => true

/-- The move takes a submission further, or to its end. -/
def Move.works : Move → Bool
  | .work _ | .settle _ | .select .. => true
  | .submit .. | .teardown _ | .elapse _ => false

/-- The move closes no slot. -/
def Move.keepsOpen : Move → Bool
  | .teardown _ => false
  | .submit .. | .work _ | .settle _ | .select .. | .elapse _ => true

theorem Move.keepsOpen_of_isQuiet {m : Move} (quiet : m.isQuiet = true) : m.keepsOpen = true := by
  cases m with
  | submit | teardown => cases quiet
  | work | settle | select | elapse => rfl

/-- A move of some kind leads from one pool to the other. -/
def StepBy (kind : Move → Bool) (engine : Engine) (p q : Pool) : Prop :=
  ∃ m events, kind m = true ∧ p.step? engine m = some (events, q)

theorem Move.isQuiet_of_works {m : Move} (works : m.works = true) : m.isQuiet = true := by
  cases m with
  | submit | teardown | elapse => cases works
  | work | settle | select => rfl

theorem StepBy.mono {kind other : Move → Bool} (step : StepBy kind engine p q)
    (within : ∀ {m : Move}, kind m = true → other m = true) : StepBy other engine p q := by
  obtain ⟨m, events, same, step⟩ := step
  exact ⟨m, events, within same, step⟩

/-- A run of moves of some kind leads from one pool to the other. -/
abbrev RunsBy (kind : Move → Bool) (engine : Engine) : Pool → Pool → Prop :=
  Relation.ReflTransGen (StepBy kind engine)

abbrev Proceeds (engine : Engine) : Pool → Pool → Prop := RunsBy Move.isQuiet engine

theorem proceeds_of_step? {m : Move} (quiet : m.isQuiet = true)
    (step : p.step? engine m = some (events, q)) : Proceeds engine p q :=
  .single ⟨m, events, quiet, step⟩

theorem RunsBy.leads {kind : Move → Bool} (runs : RunsBy kind engine p q) : Leads engine p q := by
  induction runs with
  | refl => exact .refl p
  | tail _ last before =>
    obtain ⟨m, events, -, step⟩ := last
    exact before.trans (leads_of_step? step)

theorem Proceeds.leads (proceeds : Proceeds engine p q) : Leads engine p q := RunsBy.leads proceeds

/-- What every move preserves, a run preserves. -/
theorem Leads.steps {P : Pool → Prop} (leads : Leads engine p q)
    (preserved : ∀ p q m events, p.step? engine m = some (events, q) → P p → P q) (start : P p) :
    P q := by
  obtain ⟨moves, events, run⟩ := leads
  induction moves generalizing p events with
  | nil =>
    cases run
    exact start
  | cons m rest ih =>
    obtain ⟨⟨first, next⟩, step, run⟩ := Option.bind_eq_some_iff.mp run
    obtain ⟨⟨more, last⟩, run, same⟩ := Option.bind_eq_some_iff.mp run
    cases same
    exact ih (preserved p next m first step start) more run

theorem Leads.induction {P : Pool → Prop} (leads : Leads engine p q)
    (preserved : ∀ p q events, Effect p q events → P p → P q) (start : P p) : P q :=
  leads.steps (fun p q _ events step => preserved p q events (step?_effect engine step)) start

theorem Leads.orderly (leads : Leads engine p q) (orderly : Orderly p) : Orderly q :=
  leads.induction (fun _ _ _ effect earlier => effect.orderly earlier) orderly

theorem Leads.length_slots (leads : Leads engine p q) : q.slots.length = p.slots.length :=
  leads.induction (P := fun q => q.slots.length = p.slots.length)
    (fun _ _ _ effect same => effect.length_slots.trans same) rfl

end Pool

end CatalogueViewer
