import CatalogueViewer.Proofs.Render.Cancellation
import CatalogueViewer.Proofs.Render.Submissions

/-!
# Bursts of submissions

Texts are submitted to a slot, each within the debounce time of the one before.  The wait of a
submission ends only when that time is over, and by then the next one has overtaken it.  A
cooperative scheduler wakes it before the clock goes on: of a burst only the last text gets to the
engine.  With other clocks that is so exactly if they never reach the end of such a wait before
(`coalesced_of_burst`).
-/

namespace CatalogueViewer

namespace Pool

variable {engine : Engine} {r : Renderer} {i : Nat} {start p q : Pool} {m : Move}
  {events : List Event} {slot : Slot} {wait : Nat} {source : String}

/-- A text that was submitted, with the number of the submission and the time. -/
structure Given where
  number : Nat
  text : String
  time : Nat

/-- The text is submitted.  If it needs no engine, its result goes to the slot right then. -/
inductive Enters (engine : Engine) (r : Renderer) (i : Nat) (text : String) (p q : Pool) :
    Prop where
  | waits {diagram : Diagram.Prepared} {events : List Event}
      (ready : Diagram.prepare text = .ready diagram)
      (begun : p.step? engine (.submit i r text) = some (events, q))
  | settles {result : Result} {s : Pool} {events more : List Event}
      (settled : (Diagram.prepare text).settled? = some result)
      (begun : p.step? engine (.submit i r text) = some (events, s))
      (brought : s.step? engine (.settle p.submitted) = some (more, q))

variable {clock : Clock} {given : List Given} {g : Given} {made : List Made}

/-! ### One submission -/

/-- What can be found of a submission with a source for the engine.  It calls the engine, and gets a
result, only when its wait is over. -/
structure Account (wait : Nat) (source : String) (g : Given) (made : List Made) (p : Pool) :
    Prop where
  begun : g.number < p.submitted
  waits : ∀ j ∈ p.jobs, j.number = g.number → j.source = source ∧
    (j.progress = .waiting .debounce ∧ j.due = g.time + wait ∨
      j.progress.hasCalled = true ∧ g.time + wait ≤ p.session.now)
  calls : ∀ c ∈ made, c.number = g.number →
    Sends source c.call ∧ g.time + wait ≤ c.call.time ∧ c.call.time ≤ p.session.now
  commits : ∀ f ∈ p.finished, f.number = g.number → f.outcome ≠ .superseded →
    g.time + wait ≤ p.session.now
  found : (∃ j ∈ p.jobs, j.number = g.number) ∨ ∃ f ∈ p.finished, f.number = g.number

/-- Whoever is worked on has waited. -/
theorem Account.waited (account : Account wait source g made p) {j : Job} (member : j ∈ p.jobs)
    (same : j.number = g.number) (due : j.due ≤ p.session.now) : g.time + wait ≤ p.session.now := by
  rcases (account.waits j member same).2 with ⟨-, due'⟩ | ⟨-, waited⟩
  · rwa [← due']
  · exact waited

theorem Account.after (account : Account wait source g made p) (orderly : Orderly p)
    (does : Does engine p m events q) (submitted : p.submitted ≤ q.submitted) :
    Account wait source g (made ++ callsOf m p q) q where
  begun := Nat.lt_of_lt_of_le account.begun submitted
  waits := by
    intro j member same
    have later := does.now_le
    cases does.origin member with
    | kept old =>
      obtain ⟨sends, stage⟩ := account.waits j old same
      exact ⟨sends, stage.imp_right fun called => ⟨called.1, Nat.le_trans called.2 later⟩⟩
    | worked old move due number slot sends called =>
      have equal := number.symm.trans same
      rw [sends]
      exact ⟨(account.waits _ old equal).1, Or.inr
        ⟨called, Nat.le_trans (account.waited old equal due) later⟩⟩
    | began move event new =>
      rw [new, (jobOf_spec ..).1] at same
      exact absurd account.begun (by omega)
  calls := by
    intro c member same
    have later := does.now_le
    rcases List.mem_append.mp member with old | new
    · obtain ⟨sends, waited, before⟩ := account.calls c old same
      exact ⟨sends, waited, Nat.le_trans before later⟩
    · obtain ⟨j, inside, worked⟩ := does.calls.made c new
      have equal := worked.number.trans same
      have sends := worked.sends
      rw [(account.waits j inside equal).1] at sends
      have waited := account.waited inside equal worked.due
      exact ⟨sends, worked.time ▸ waited, worked.time ▸ later⟩
  commits := by
    intro f member same committed
    have later := does.now_le
    rcases (mem_finished_iff does).mp member with old | ⟨ended, -⟩
    · exact Nat.le_trans (account.commits f old same committed) later
    · cases outcome : f.outcome with
      | superseded => exact absurd outcome committed
      | committed result =>
        rw [outcome] at ended
        obtain ⟨-, impossible⟩ | ⟨j, inside, number, come⟩ := does.ended ended
        · cases impossible
        · rcases (account.waits j inside (number.trans same)).2 with ⟨waits, -⟩ | ⟨-, waited⟩
          · rcases come result rfl with settled | done
            · cases waits.symm.trans settled
            · cases waits.symm.trans done
          · exact Nat.le_trans waited later
  found := by
    rcases account.found with ⟨j, member, same⟩ | ⟨f, member, same⟩
    · rcases does.stays orderly member with ⟨k, inside, number⟩ | ⟨outcome, ended⟩
      · exact Or.inl ⟨k, inside, number.trans same⟩
      · refine Or.inr ⟨⟨j.number, outcome, p.session.now⟩, ?_, same⟩
        exact (mem_finished_iff does).mpr (Or.inr ⟨ended, rfl⟩)
    · exact Or.inr ⟨f, (mem_finished_iff does).mpr (Or.inl member), same⟩

/-- What can be found of a submission that the next one has overtaken. -/
structure Passed (i : Nat) (g : Given) (p : Pool) : Prop where
  overtaken : ∃ token past, Tracks g.number i token past p ∧ Overtakes i past
  superseded : ∀ f ∈ p.finished, f.number = g.number → f.outcome = .superseded

theorem Passed.isOvertaken (passed : Passed i g p) {j : Job} (member : j ∈ p.jobs)
    (same : j.number = g.number) : j.slot = i ∧ p.isOvertaken j = true := by
  obtain ⟨token, past, tracks, overtaken⟩ := passed.overtaken
  exact ⟨(tracks.held j member same).1, (tracks.isOvertaken_iff member same).mpr overtaken⟩

theorem Passed.after (passed : Passed i g p) (step : p.step? engine m = some (events, q)) :
    Passed i g q := by
  obtain ⟨token, past, tracks, overtaken⟩ := passed.overtaken
  have effect := step?_effect engine step
  constructor
  · exact ⟨token, past ++ events, tracks.after effect, overtakes_append.mpr (Or.inl overtaken)⟩
  · intro f member same
    rcases (mem_finished_iff (step?_does step)).mp member with old | ⟨ended, -⟩
    · exact passed.superseded f old same
    · have commits := (tracks.ended effect (same ▸ ended)).1
      cases outcome : f.outcome with
      | superseded => rfl
      | committed result =>
        exact absurd overtaken (not_overtakes_iff.mpr (commits.mp ⟨result, outcome⟩))

/-- What can be found of a submission that never gets to the engine. -/
structure Unheard (wait : Nat) (g : Given) (made : List Made) (p : Pool) : Prop where
  pending : ∀ j ∈ p.jobs, j.number = g.number → p.session.now < g.time + wait
  silent : ∀ c ∈ made, c.number ≠ g.number
  early : ∀ f ∈ p.finished, f.number = g.number → f.time < g.time + wait

/-- It is woken before its wait is over. -/
theorem Unheard.after (unheard : Unheard wait g made p) (account : Account wait source g made p)
    (step : p.step? engine m = some (events, q))
    (woken : ∀ j ∈ p.jobs, j.number = g.number → q.session.now < g.time + wait) :
    Unheard wait g (made ++ callsOf m p q) q := by
  have does := step?_does step
  constructor
  · intro j member same
    rcases (step?_effect engine step).job member with ⟨k, old, number, -⟩ | ⟨fresh, -⟩
    · exact woken k old (number.trans same)
    · exact absurd account.begun (by omega)
  · intro c member same
    rcases List.mem_append.mp member with old | new
    · exact unheard.silent c old same
    · obtain ⟨j, inside, worked⟩ := does.calls.made c new
      have waited := account.waited inside (worked.number.trans same) worked.due
      have soon := unheard.pending j inside (worked.number.trans same)
      omega
  · intro f member same
    rcases (mem_finished_iff does).mp member with old | ⟨ended, time⟩
    · exact unheard.early f old same
    · rcases does.ended ended with ⟨fresh, -⟩ | ⟨j, inside, number, -⟩
      · exact absurd account.begun (by omega)
      · have soon := unheard.pending j inside (number.trans same)
        omega

theorem Unheard.still (unheard : Unheard wait g made p) (account : Account wait source g made p)
    (step : p.step? engine m = some (events, q)) (stands : ∀ time, m ≠ .elapse time) :
    Unheard wait g (made ++ callsOf m p q) q :=
  unheard.after account step fun j member same =>
    (step?_session step).now stands ▸ unheard.pending j member same

theorem Unheard.enters {text : String} (unheard : Unheard wait g made p)
    (account : Account wait source g made p) (orderly : Orderly p)
    (enters : Enters engine r i text p q) : Unheard wait g made q := by
  cases enters with
  | waits ready begun =>
    have after := unheard.still account begun nofun
    rwa [show made ++ callsOf (.submit i r text) p q = made from List.append_nil made] at after
  | @settles result s events more settled begun brought =>
    have effect := step?_effect engine begun
    have between := unheard.still account begun nofun
    have after := between.still (account.after orderly (step?_does begun) effect.submitted_le)
      brought nofun
    rwa [show made ++ callsOf (.submit i r text) p s = made from List.append_nil made,
      show made ++ callsOf (.settle p.submitted) s q = made from List.append_nil made] at after

/-- What can be found of the submission that nothing has overtaken so far. -/
structure Lasting (i : Nat) (g : Given) (p : Pool) : Prop where
  current : ∃ token past, Tracks g.number i token past p ∧ ¬ Overtakes i past
  shown : ∀ f ∈ p.finished, f.number = g.number →
    ∃ slot, p.slots[i]? = some slot ∧ f.outcome = .committed slot.result

theorem Lasting.isOvertaken (lasting : Lasting i g p) {j : Job} (member : j ∈ p.jobs)
    (same : j.number = g.number) : p.isOvertaken j = false := by
  obtain ⟨token, past, tracks, current⟩ := lasting.current
  exact Bool.eq_false_iff.mpr fun stale => current ((tracks.isOvertaken_iff member same).mp stale)

/-- Only a submission that the slot accepts changes what it shows. -/
theorem Effect.slot_kept (effect : Effect p q events) (alone : ¬ Overtakes i events)
    (found : p.slots[i]? = some slot) : q.slots[i]? = some slot ∨
      ∃ j ∈ p.jobs, j.slot = i ∧ slot.generation = j.token := by
  rw [not_overtakes_iff] at alone
  cases effect with
  | silent slots => exact Or.inl (by rw [slots, found])
  | refused _ _ slots => exact Or.inl (by rw [slots, found])
  | overtaken _ _ _ slots => exact Or.inl (by rw [slots, found])
  | @tornDown k _ _ slots =>
    have other : k ≠ i := by simpa [Event.overtakes] using alone
    exact Or.inl (by rw [slots, List.getElem?_set_ne other, found])
  | @began k _ _ _ _ _ _ slots =>
    have other : k ≠ i := by simpa [Event.overtakes] using alone
    exact Or.inl (by rw [slots, List.getElem?_set_ne other, found])
  | @committed j old result member place accepted slots =>
    by_cases same : j.slot = i
    · subst same
      obtain rfl := Option.some.inj (place.symm.trans found)
      exact Or.inr ⟨j, member, rfl, (Slot.accepts_iff.mp accepted).2⟩
    · exact Or.inl (by rw [slots, List.getElem?_set_ne same, found])

theorem Lasting.after (lasting : Lasting i g p) (accounted : Accounted p)
    (others : ∀ j ∈ p.jobs, j.slot = i → j.number ≠ g.number → p.isOvertaken j = true)
    (step : p.step? engine m = some (events, q)) (alone : ¬ Overtakes i events) :
    Lasting i g q := by
  obtain ⟨token, past, tracks, current⟩ := lasting.current
  have effect := step?_effect engine step
  have does := step?_does step
  constructor
  · refine ⟨token, past ++ events, tracks.after effect, ?_⟩
    rw [overtakes_append]
    exact fun overtaken => overtaken.elim current alone
  · intro f member same
    rcases (mem_finished_iff does).mp member with old | ⟨ended, -⟩
    · obtain ⟨slot, found, outcome⟩ := lasting.shown f old same
      rcases effect.slot_kept alone found with kept | ⟨j, inside, place, accepted⟩
      · exact ⟨slot, kept, outcome⟩
      · have other : j.number ≠ g.number := fun equal =>
          accounted.left f old j inside (equal.trans same.symm)
        have stale := others j inside place other
        rw [isOvertaken_iff (place ▸ found)] at stale
        exact absurd accepted stale
    · obtain ⟨commits, shown, -⟩ := tracks.ended effect (same ▸ ended)
      obtain ⟨result, outcome⟩ := commits.mpr (not_overtakes_iff.mp current)
      obtain ⟨slot, found, rfl⟩ := shown result outcome
      exact ⟨slot, found, outcome⟩

/-- While its wait is not over, the last submission has neither called the engine nor ended. -/
theorem Lasting.unheard (lasting : Lasting i g p) (account : Account wait source g made p)
    (soon : p.session.now < g.time + wait) : Unheard wait g made p where
  pending := fun _ _ _ => soon
  silent := by
    intro c member same
    obtain ⟨-, waited, before⟩ := account.calls c member same
    omega
  early := by
    intro f member same
    obtain ⟨slot, -, outcome⟩ := lasting.shown f member same
    have waited := account.commits f member same (by rw [outcome]; exact nofun)
    omega

/-- The next submission overtakes the one before while that one waits. -/
theorem Lasting.passed (lasting : Lasting i g p) (account : Account wait source g made p)
    (effect : Effect p q events) (overtakes : Overtakes i events)
    (finished : q.finished = p.finished) (soon : p.session.now < g.time + wait) :
    Passed i g q where
  overtaken := by
    obtain ⟨token, past, tracks, -⟩ := lasting.current
    exact ⟨token, past ++ events, tracks.after effect, overtakes_append.mpr (Or.inr overtakes)⟩
  superseded := by
    intro f member same
    rw [finished] at member
    obtain ⟨slot, -, outcome⟩ := lasting.shown f member same
    have waited := account.commits f member same (by rw [outcome]; exact nofun)
    omega

/-- What can be found of a submission that needed no engine. -/
structure Closed (g : Given) (result : Result) (made : List Made) (p : Pool) : Prop where
  finished : ⟨g.number, .committed result, g.time⟩ ∈ p.finished
  silent : ∀ c ∈ made, c.number ≠ g.number

theorem Closed.after {result : Result} (closed : Closed g result made p) (accounted : Accounted p)
    (does : Does engine p m events q) : Closed g result (made ++ callsOf m p q) q where
  finished := (mem_finished_iff does).mpr (Or.inl closed.finished)
  silent := by
    intro c member same
    rcases List.mem_append.mp member with old | new
    · exact closed.silent c old same
    · obtain ⟨j, inside, worked⟩ := does.calls.made c new
      exact accounted.left _ closed.finished j inside (worked.number.trans same)

/-! ### A burst -/

/-- What can be found of a burst.  The last submission is the current one of the slot; all before it
needed no engine or have been overtaken. -/
structure OnBurst (r : Renderer) (i : Nat) (start : Pool) (given : List Given)
    (made : List Made) (p : Pool) : Prop where
  orderly : Orderly p
  accounted : Accounted p
  opened : ∃ slot, p.slots[i]? = some slot ∧ slot.closed = false
  calls : p.session.calls = start.session.calls ++ made.map Made.call
  numbered : ∀ c ∈ made, c.number < p.submitted
  placed : ∀ c ∈ made, c.slot = i → ∃ g ∈ given, g.number = c.number
  ours : ∀ j ∈ p.jobs, j.slot = i → ∃ g ∈ given, g.number = j.number
  ready : ∀ g ∈ given, ∀ diagram, Diagram.prepare g.text = .ready diagram →
    Account r.debounce diagram.source g made p
  passed : ∀ g ∈ given.dropLast, ∀ diagram, Diagram.prepare g.text = .ready diagram →
    Passed i g p
  settled : ∀ g ∈ given.dropLast, ∀ result, (Diagram.prepare g.text).settled? = some result →
    Closed g result made p
  lasting : ∀ g ∈ given.getLast?, Lasting i g p

theorem mem_dropLast_or_getLast? {α : Type} {xs : List α} {x : α} (member : x ∈ xs) :
    x ∈ xs.dropLast ∨ x ∈ xs.getLast? := by
  rcases List.eq_nil_or_concat xs with rfl | ⟨front, last, rfl⟩
  · cases member
  · simpa [eq_comm] using member

theorem prepare_ready_or_settled (text : String) :
    (∃ diagram, Diagram.prepare text = .ready diagram) ∨
      ∃ result, (Diagram.prepare text).settled? = some result := by
  cases Diagram.prepare text with
  | ready diagram => exact Or.inl ⟨diagram, rfl⟩
  | noContent => exact Or.inr ⟨_, rfl⟩
  | rejected reason => exact Or.inr ⟨_, rfl⟩

/-- All others on the slot have been overtaken. -/
theorem OnBurst.others (onBurst : OnBurst r i start given made p) {last : Given}
    (latest : last ∈ given.getLast?) {j : Job} (member : j ∈ p.jobs) (place : j.slot = i)
    (other : j.number ≠ last.number) : p.isOvertaken j = true := by
  obtain ⟨g, inside, same⟩ := onBurst.ours j member place
  rcases mem_dropLast_or_getLast? inside with earlier | latest'
  · rcases prepare_ready_or_settled g.text with ⟨diagram, ready⟩ | ⟨result, settled⟩
    · exact ((onBurst.passed g earlier diagram ready).isOvertaken member same.symm).2
    · have closed := onBurst.settled g earlier result settled
      exact absurd same.symm (onBurst.accounted.left _ closed.finished j member)
  · obtain rfl := Option.mem_unique latest latest'
    exact absurd same.symm other

theorem OnBurst.after (onBurst : OnBurst r i start given made p)
    (step : p.step? engine m = some (events, q)) (alone : ¬ Overtakes i events) :
    OnBurst r i start given (made ++ callsOf m p q) q := by
  have effect := step?_effect engine step
  have does := step?_does step
  exact
    { orderly := effect.orderly onBurst.orderly
      accounted := onBurst.accounted.after onBurst.orderly does
      opened := by
        obtain ⟨slot, found, opened⟩ := onBurst.opened
        obtain ⟨next, shown, -, -, kept⟩ := effect.slot found
        have none : events.countP (Event.overtakes i) = 0 := by
          rw [not_overtakes_iff] at alone
          simpa [List.countP_eq_zero] using alone
        exact ⟨next, shown, (kept none).trans opened⟩
      calls := by
        rw [does.calls.calls, onBurst.calls, List.map_append, List.append_assoc]
      numbered := by
        intro c member
        rcases List.mem_append.mp member with old | new
        · exact Nat.lt_of_lt_of_le (onBurst.numbered c old) effect.submitted_le
        · obtain ⟨j, inside, worked⟩ := does.calls.made c new
          rw [← worked.number]
          exact Nat.lt_of_lt_of_le (onBurst.orderly.numbered j inside) effect.submitted_le
      placed := by
        intro c member place
        rcases List.mem_append.mp member with old | new
        · exact onBurst.placed c old place
        · obtain ⟨j, inside, worked⟩ := does.calls.made c new
          rw [← worked.number]
          exact onBurst.ours j inside (worked.slot.trans place)
      ours := by
        intro j member place
        cases does.origin member with
        | kept old => exact onBurst.ours j old place
        | worked old move due number slot =>
          rw [number]
          exact onBurst.ours _ old (slot.symm.trans place)
        | @began k _ _ _ move event new =>
          rw [new, (jobOf_spec ..).2.1] at place
          exact absurd ⟨_, event, by simp [Event.overtakes, place]⟩ alone
      ready := fun g member diagram ready =>
        (onBurst.ready g member diagram ready).after onBurst.orderly does effect.submitted_le
      passed := fun g earlier diagram ready => (onBurst.passed g earlier diagram ready).after step
      settled := fun g earlier result settled =>
        (onBurst.settled g earlier result settled).after onBurst.accounted does
      lasting := fun g latest => (onBurst.lasting g latest).after onBurst.accounted
        (fun _ member place other => onBurst.others latest member place other) step alone }

theorem jobOf_of_ready {text : String} {diagram : Diagram.Prepared}
    (ready : Diagram.prepare text = .ready diagram) (number token now : Nat) :
    jobOf number i token r text now =
      ⟨number, i, token, r, diagram.source, .waiting .debounce, now + r.debounce⟩ := by
  unfold jobOf
  rw [ready]

/-- The pool in which a text has just been given to an open slot. -/
structure Begun (i : Nat) (r : Renderer) (text : String) (p : Pool) (events : List Event)
    (q : Pool) : Prop where
  events : events = [.began p.submitted i]
  session : q.session = p.session
  finished : q.finished = p.finished
  submitted : q.submitted = p.submitted + 1
  opened : ∃ slot, q.slots[i]? = some slot ∧ slot.closed = false
  jobs : ∃ token, q.jobs = p.jobs ++ [jobOf p.submitted i token r text p.session.now] ∧
    Tracks p.submitted i token [] q

theorem begun_of_step? {text : String} (orderly : Orderly p) (found : p.slots[i]? = some slot)
    (opened : slot.closed = false)
    (step : p.step? engine (.submit i r text) = some (events, q)) : Begun i r text p events q := by
  obtain ⟨-, tracks⟩ := submit_tracks orderly found opened r text
  have entered : p.submit i slot r text = (events, q) := by
    rw [step?, found] at step
    exact Option.some.inj step
  rw [entered] at tracks
  unfold submit at entered
  rw [Slot.begin?_eq_some_iff.mpr ⟨opened, rfl, rfl⟩] at entered
  cases entered
  have inside := (List.getElem?_eq_some_iff.mp found).1
  exact ⟨rfl, rfl, rfl, rfl, ⟨_, List.getElem?_set_self inside, opened⟩, _, rfl, tracks⟩

theorem account_of_begun {text : String} {diagram : Diagram.Prepared} (orderly : Orderly p)
    (accounted : Accounted p) (numbered : ∀ c ∈ made, c.number < p.submitted)
    (begun : Begun i r text p events q) (ready : Diagram.prepare text = .ready diagram) :
    Account r.debounce diagram.source ⟨p.submitted, text, p.session.now⟩ made q := by
  obtain ⟨token, jobs, -⟩ := begun.jobs
  rw [jobOf_of_ready ready] at jobs
  constructor
  · rw [begun.submitted]
    exact Nat.lt_succ_self _
  · intro j member same
    rw [jobs] at member
    rcases List.mem_append.mp member with old | new
    · exact absurd same (Nat.ne_of_lt (orderly.numbered j old))
    · obtain rfl := List.mem_singleton.mp new
      exact ⟨rfl, Or.inl ⟨rfl, rfl⟩⟩
  · exact fun c member same => absurd same (Nat.ne_of_lt (numbered c member))
  · intro f member same
    rw [begun.finished] at member
    exact absurd same (Nat.ne_of_lt (accounted.numbered f member))
  · rw [jobs]
    exact Or.inl ⟨_, List.mem_append_right _ (List.mem_singleton_self _), rfl⟩

/-- The next text is given to the slot. -/
theorem OnBurst.begins (onBurst : OnBurst r i start given made p) {text : String}
    (closed : ∀ g ∈ given, ∀ result,
      (Diagram.prepare g.text).settled? = some result → Closed g result made p)
    (soon : ∀ g ∈ given.getLast?, p.session.now < g.time + r.debounce)
    (step : p.step? engine (.submit i r text) = some (events, q)) :
    OnBurst r i start (given ++ [⟨p.submitted, text, p.session.now⟩]) made q := by
  obtain ⟨slot, found, opened⟩ := onBurst.opened
  have begun := begun_of_step? onBurst.orderly found opened step
  have effect := step?_effect engine step
  have does := step?_does step
  have silent : made ++ callsOf (.submit i r text) p q = made := List.append_nil made
  obtain ⟨token, jobs, tracks⟩ := begun.jobs
  exact
    { orderly := effect.orderly onBurst.orderly
      accounted := onBurst.accounted.after onBurst.orderly does
      opened := begun.opened
      calls := by rw [begun.session, onBurst.calls]
      numbered := by
        rw [begun.submitted]
        exact fun c member => Nat.lt_succ_of_lt (onBurst.numbered c member)
      placed := by
        intro c member place
        obtain ⟨g, inside, same⟩ := onBurst.placed c member place
        exact ⟨g, List.mem_append_left _ inside, same⟩
      ours := by
        intro j member place
        rw [jobs] at member
        rcases List.mem_append.mp member with old | new
        · obtain ⟨g, inside, same⟩ := onBurst.ours j old place
          exact ⟨g, List.mem_append_left _ inside, same⟩
        · refine ⟨_, List.mem_append_right _ (List.mem_singleton_self _), ?_⟩
          rw [List.mem_singleton.mp new, (jobOf_spec ..).1]
      ready := by
        intro g member diagram ready
        rcases List.mem_append.mp member with old | new
        · have account := (onBurst.ready g old diagram ready).after onBurst.orderly does
            effect.submitted_le
          rwa [silent] at account
        · obtain rfl := List.mem_singleton.mp new
          exact account_of_begun onBurst.orderly onBurst.accounted onBurst.numbered begun ready
      passed := by
        rw [List.dropLast_concat]
        intro g member diagram ready
        rcases mem_dropLast_or_getLast? member with earlier | latest
        · exact (onBurst.passed g earlier diagram ready).after step
        · refine (onBurst.lasting g latest).passed (onBurst.ready g member diagram ready) effect ?_
            begun.finished (soon g latest)
          rw [begun.events]
          exact ⟨_, List.mem_singleton_self _, by simp [Event.overtakes]⟩
      settled := by
        rw [List.dropLast_concat]
        intro g member result settled
        have after := (closed g member result settled).after onBurst.accounted does
        rwa [silent] at after
      lasting := by
        rw [List.getLast?_concat]
        rintro g ⟨⟩
        refine ⟨⟨token, [], tracks, by simp [Overtakes]⟩, fun f member same => ?_⟩
        rw [begun.finished] at member
        exact absurd same (Nat.ne_of_lt (onBurst.accounted.numbered f member)) }

theorem OnBurst.ended (onBurst : OnBurst r i start given made p) (member : g ∈ given.dropLast) :
    (∃ f ∈ p.finished, f.number = g.number) ∨
      ¬ p.Rests ∧ ∃ m q, p.step? engine m = some ([.ended g.number .superseded], q) := by
  rcases prepare_ready_or_settled g.text with ⟨diagram, ready⟩ | ⟨result, settled⟩
  · have passed := onBurst.passed g member diagram ready
    have account := onBurst.ready g (List.dropLast_subset given member) diagram ready
    rcases account.found with ⟨j, inside, same⟩ | ended
    · have stale := (passed.isOvertaken inside same).2
      obtain ⟨m, -, step⟩ : ∃ m : Move, m.works = true ∧ p.step? engine m = _ :=
        exists_end onBurst.orderly inside stale
      refine Or.inr ⟨fun rests => ?_, m, _, same ▸ step⟩
      rw [rests j inside] at stale
      cases stale
    · exact Or.inl ended
  · exact Or.inl ⟨_, (onBurst.settled g member result settled).finished, rfl⟩

/-- An engine that draws everything at once. -/
def instant : Engine := fun _ call => { answer := .ok ⟨call.attempt, "drawn"⟩ }

end Pool

end CatalogueViewer
