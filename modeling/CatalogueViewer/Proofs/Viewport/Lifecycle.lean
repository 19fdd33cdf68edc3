import CatalogueViewer.Proofs.Render.Attempts
import CatalogueViewer.Proofs.Render.Outcome
import CatalogueViewer.Proofs.Viewport.Diagrams

/-!
# The slots of a viewport

A document gets a slot for each of its diagrams when it is selected, and loses them to the next one.
However a viewport is used, the slots on view are open, all others are closed for good, and the name
of a slot tells which diagram of which document it is for: `slots_follow_documents`.
-/

namespace CatalogueViewer

/-! ### Closed slots -/

theorem Pool.Effect.closed {p q : Pool} {events : List Pool.Event} (effect : Pool.Effect p q events)
    {i : Nat} (closed : ∃ slot, p.slots[i]? = some slot ∧ slot.closed = true) :
    ∃ slot, q.slots[i]? = some slot ∧ slot.closed = true := by
  obtain ⟨slot, found, closed⟩ := closed
  have inside := (List.getElem?_eq_some_iff.mp found).1
  -- What happens to another slot does not matter.
  have apart {k : Nat} {old new : Slot} (slots : q.slots = p.slots.set k new)
      (place : p.slots[k]? = some old) (stays : old.closed = true → new.closed = true) :
      ∃ slot, q.slots[i]? = some slot ∧ slot.closed = true := by
    by_cases same : k = i
    · subst same
      obtain rfl := Option.some.inj (found.symm.trans place)
      exact ⟨new, by rw [slots, List.getElem?_set_self inside], stays closed⟩
    · exact ⟨slot, by rw [slots, List.getElem?_set_ne same]; exact found, closed⟩
  cases effect with
  | silent slots => exact ⟨slot, slots ▸ found, closed⟩
  | tornDown place slots => exact apart slots place fun _ => rfl
  | refused _ _ slots => exact ⟨slot, slots ▸ found, closed⟩
  | began _ place accepted slots =>
    obtain ⟨opened, -, rfl⟩ := Slot.begin?_eq_some_iff.mp accepted
    exact apart slots place id
  | committed _ place accepted slots => exact apart slots place id
  | overtaken _ _ _ slots => exact ⟨slot, slots ▸ found, closed⟩

/-- Whatever else goes on, a submission to the slot is refused, and calls no engine. -/
def Slot.RefusesAll (slot : Slot) : Prop :=
  ∀ engine p q i, p.slots[i]? = some slot → Pool.Leads engine p q → ∀ renderer text,
    ∃ r, q.step? engine (.submit i renderer text) = some ([.ended q.submitted .superseded], r) ∧
      r.session = q.session ∧ r.slots = q.slots

theorem Slot.refusesAll_of_closed {slot : Slot} (closed : slot.closed = true) :
    slot.RefusesAll := by
  intro engine p q i place leads renderer text
  obtain ⟨now, found, still⟩ := leads.induction
    (P := fun q => ∃ slot, q.slots[i]? = some slot ∧ slot.closed = true)
    (fun _ _ _ effect => effect.closed) ⟨slot, place, closed⟩
  obtain ⟨events, slots⟩ := Pool.submit_of_closed q i still renderer text
  refine ⟨(q.submit i now renderer text).2, ?_, Pool.session_submit .., slots⟩
  rw [Pool.step?, found, ← events]
  rfl

namespace Viewport

variable {engine : Engine} {v w x : Viewport} {docs more : List PageTree} {t : PageTree}

/-! ### Names of slots -/

theorem slotId_inj {k l : NodeKey} {m n : Nat} : slotId k m = slotId l n ↔ k = l ∧ m = n := by
  have text (key : NodeKey) (n : Nat) :
      (slotId key n).text = key.text ++ "-diagram" ++ "-" ++ toString n := by
    simp only [slotId, Id.append, String.append_assoc]
    rfl
  constructor
  · intro same
    have texts := congrArg Id.text same
    rw [text, text] at texts
    obtain ⟨front, rfl⟩ := numbered_inj texts
    cases k
    cases l
    obtain rfl := (String.append_left_inj "-diagram").mp front
    exact ⟨rfl, rfl⟩
  · rintro ⟨rfl, rfl⟩
    rfl

def isDiagramBlock : Markdown.Block → Bool
  | .text _ => false
  | .code b => b.isDiagram

/-- The names of the slots of a document, one for each of its diagrams. -/
def slotIds (t : PageTree) : List SlotId :=
  (List.range ((Markdown.blocks t.value.body).countP isDiagramBlock)).map (slotId t.value.key)

theorem map_id_occurrencesFrom (key : NodeKey) (i n : Nat) (blocks : List Markdown.Block) :
    (occurrencesFrom key i n blocks).map (fun o => o.slot.id) =
      (List.range' n (blocks.countP isDiagramBlock)).map (slotId key) := by
  fun_induction occurrencesFrom key i n blocks with
  | case1 => rfl
  | case2 i n source rest ih =>
    rw [ih, List.countP_cons_of_neg (by simp [isDiagramBlock])]
  | case3 i n b rest diagram ih =>
    rw [List.countP_cons_of_pos (by simpa [isDiagramBlock] using diagram), List.range'_succ,
      List.map_cons, List.map_cons, ih]
  | case4 i n b rest plain ih =>
    rw [List.countP_cons_of_neg (by simpa [isDiagramBlock] using plain), ih]

/-! ### Uses of a viewport -/

/-- The document that a request to select a page turns to. -/
def document? (v : Viewport) (key : NodeKey) : Option PageTree :=
  match locate v.tree key with
  | some (.leaf t) => some t
  | some (.parent _) | none => none

/-- A viewport as it was, and what has become of it: which documents have been selected since.
Submissions to its slots, those of rendering and others, may go on in any order and be given up at
any point, and its engine may be used elsewhere. -/
inductive Used (engine : Engine) (v : Viewport) : List PageTree → Viewport → Prop where
  | start : Used engine v [] v
  | select {docs : List PageTree} {w : Viewport} (used : Used engine v docs w) (key : NodeKey) :
      Used engine v (docs ++ (w.document? key).toList) (w.select key).2
  | toggle {docs : List PageTree} {w : Viewport} (used : Used engine v docs w) (key : NodeKey) :
      Used engine v docs (w.toggle key).2
  | scrollTo {docs : List PageTree} {w : Viewport} (used : Used engine v docs w) (offset : Nat) :
      Used engine v docs (w.scrollTo offset)
  | elsewhere {docs : List PageTree} {w : Viewport} {s : Session} (used : Used engine v docs w)
      (grows : w.session.Grows engine s) : Used engine v docs { w with session := s }
  | submissions {docs : List PageTree} {w : Viewport} {p : Pool} (used : Used engine v docs w)
      (runs : Pool.RunsBy Pool.Move.keepsOpen engine w.pool p) : Used engine v docs (w.withPool p)

theorem Used.render (used : Used engine v docs w) : Used engine v docs (w.render engine).2 := by
  have renders := render_renders w engine
  generalize (w.render engine).1 = outcomes at renders
  generalize (w.render engine).2 = x at renders ⊢
  obtain ⟨course, _, _⟩ := renders
  exact used.submissions course.runsBy

theorem select_eq (v : Viewport) (key : NodeKey) :
    (v.select key).2 = match v.document? key with
      | none => v
      | some t => v.turnTo t := by
  unfold select document?
  cases locate v.tree key with
  | none => rfl
  | some found => cases found <;> rfl

theorem leaf_of_document? {key : NodeKey} (found : v.document? key = some t) :
    t.isLeaf = true := by
  unfold document? at found
  split at found
  · next t' located =>
    cases found
    exact (mem_of_locate located).2.2
  · cases found
  · cases found

theorem occurrences_turnTo (v : Viewport) (leaf : t.isLeaf = true) :
    (v.turnTo t).occurrences =
      occurrencesFrom t.value.key 0 0 (Markdown.blocks t.value.body) := by
  have selected : (v.selection.selectLeaf t).2 =
      ⟨some t.value.key, t.value.title, t.value.body⟩ := by
    rw [Selection.selectLeaf, if_pos leaf]
  simp only [turnTo, refresh, selected]

/-! ### What holds however it is used -/

/-- The slots of a viewport that has shown these documents, the last of them is on view. -/
structure Holds (engine : Engine) (shown : List PageTree) (w : Viewport) : Prop where
  /-- In all, each document got its slots when it was selected. -/
  made : (w.retired ++ w.occurrences.map Occurrence.slot).map Slot.id = shown.flatMap slotIds
  current : w.occurrences.map (fun o => o.slot.id) = (shown.getLast?.map slotIds).getD []
  closed : ∀ slot ∈ w.retired, slot.closed = true
  opened : Pool.ClosesNone engine → w.AllOpen
  session : Session.Grows engine {} w.session

theorem Holds.turnTo {shown : List PageTree} (holds : Holds engine shown w)
    (leaf : t.isLeaf = true) : Holds engine (shown ++ [t]) (w.turnTo t) := by
  have fresh : (w.turnTo t).occurrences.map (fun o => o.slot.id) = slotIds t := by
    rw [occurrences_turnTo w leaf, map_id_occurrencesFrom, slotIds, List.range_eq_range']
  have retired : (w.turnTo t).retired = w.retired ++ w.occurrences.map fun o => o.slot.teardown :=
    rfl
  constructor
  case made =>
    have earlier := holds.made
    rw [List.map_append, List.map_map] at earlier ⊢
    rw [List.flatMap_append, List.flatMap_singleton, retired, List.map_append, List.map_map,
      ← earlier]
    exact congrArg _ fresh
  case current => simpa using fresh
  case closed =>
    intro slot member
    rw [retired] at member
    rcases List.mem_append.mp member with old | new
    · exact holds.closed slot old
    · obtain ⟨o, -, rfl⟩ := List.mem_map.mp new
      rfl
  case opened =>
    intro _ o member
    rw [occurrences_turnTo w leaf] at member
    exact opened_occurrencesFrom _ 0 0 _ o member
  case session => exact holds.session

theorem Holds.select {shown : List PageTree} (holds : Holds engine shown w) (key : NodeKey) :
    Holds engine (shown ++ (w.document? key).toList) (w.select key).2 := by
  rw [select_eq]
  cases found : w.document? key with
  | none => simpa using holds
  | some t => exact holds.turnTo (leaf_of_document? found)

theorem slots_withPool {p : Pool} (leads : Pool.Leads engine w.pool p) :
    (w.withPool p).occurrences.map Occurrence.slot = p.slots := by
  have length := length_withPool leads
  have same : p.slots.length = w.occurrences.length := by
    rw [← List.length_map Slot.id, map_id_withPool leads, List.length_map]
  apply List.ext_getElem
  · rw [List.length_map, length, same]
  · intro i inside within
    simp [withPool]

theorem Holds.submissions {shown : List PageTree} {p : Pool} (holds : Holds engine shown w)
    (runs : Pool.RunsBy Pool.Move.keepsOpen engine w.pool p) :
    Holds engine shown (w.withPool p) := by
  have leads : Pool.Leads engine w.pool p := runs.leads
  have slots := slots_withPool leads
  have ids := map_id_withPool leads
  constructor
  case made =>
    have earlier := holds.made
    rw [List.map_append, List.map_map] at earlier
    rw [slots, List.map_append, ids]
    exact earlier
  case current =>
    have shows : (w.withPool p).occurrences.map (fun o => o.slot.id) = p.slots.map Slot.id := by
      rw [← slots, List.map_map]
      rfl
    rw [shows, ids, holds.current]
  case closed => exact holds.closed
  case opened =>
    intro closesNone o member
    have still := (undisturbed_pool (holds.opened closesNone)).runsBy closesNone runs
    exact still.opened o.slot (slots ▸ List.mem_map_of_mem member)
  case session => exact holds.session.trans leads.grows

theorem Holds.used {shown : List PageTree} (holds : Holds engine shown v)
    (used : Used engine v docs w) : Holds engine (shown ++ docs) w := by
  induction used with
  | start => rwa [List.append_nil]
  | select _ key before =>
    rw [← List.append_assoc]
    exact before.select key
  | toggle _ key before =>
    unfold Viewport.toggle
    split <;> exact ⟨before.made, before.current, before.closed, before.opened, before.session⟩
  | scrollTo _ offset before =>
    exact ⟨before.made, before.current, before.closed, before.opened, before.session⟩
  | elsewhere _ grows before =>
    exact ⟨before.made, before.current, before.closed, before.opened, before.session.trans grows⟩
  | submissions _ runs before => exact before.submissions runs

/-- What has been closed stays in its place. -/
theorem Used.retired_prefix (used : Used engine v docs w) : v.retired <+: w.retired := by
  induction used with
  | start => exact List.prefix_refl _
  | @select docs w _ key before =>
    rw [select_eq]
    cases w.document? key with
    | none => exact before
    | some t => exact before.trans (List.prefix_append _ _)
  | toggle _ key before =>
    unfold Viewport.toggle
    split <;> exact before
  | scrollTo _ _ before => exact before
  | elsewhere _ _ before => exact before
  | submissions _ _ before => exact before

theorem holds_unopened (settings : ViewerSettings) (task : Option Task) (tree : List PageTree) :
    Holds engine [] (unopened settings task tree) where
  made := rfl
  current := rfl
  closed := fun _ member => nomatch member
  opened := fun _ _ member => nomatch member
  session := .refl

theorem holds_ofRecords {settings : ViewerSettings} {records : List Record} {task : Option Task}
    (opened : Viewport.ofRecords settings records task = .ok v) :
    Holds engine (firstDocument? v.tree).toList v := by
  have distinct := nodup_pageKeys_ofRecords opened
  rw [ofRecords_eq_map] at opened
  cases checked : assembleChecked settings.maxDepth records >>= buildChecked settings.maxDepth with
  | error failure =>
    rw [checked] at opened
    cases opened
  | ok tree =>
    rw [checked] at opened
    replace opened := Except.ok.inj opened
    have start : Holds engine [] (unopened settings task tree) := holds_unopened settings task tree
    dsimp only at opened
    cases first : firstDocument? tree with
    | none =>
      rw [first] at opened
      subst opened
      have none : firstDocument? (unopened settings task tree).tree = none := first
      rw [none]
      exact start
    | some t =>
      simp only [first] at opened
      have same : v.tree = tree := by
        rw [← opened, tree_select]
        rfl
      obtain ⟨member, leaf⟩ := leaf_of_firstDocument? first
      rw [same] at distinct ⊢
      rw [first, ← opened, select_of_leaf (v := unopened settings task tree) distinct member leaf]
      exact start.turnTo leaf

/-- However a viewport is used, the slots that are not closed are those of the document on view, if
the engine closes none.  The slots of all documents before it are closed and stay so, and refuse
all submissions.  A slot has its name in common with none but that of the same diagram.  And however
renderers and submissions call their engines, no two calls in a process have an attempt id in
common. -/
theorem slots_follow_documents {settings : ViewerSettings} {records : List Record}
    {task : Option Task} (opened : Viewport.ofRecords settings records task = .ok v)
    (used : Used engine v docs w) (later : Used engine w more x) :
    Holds engine ((firstDocument? v.tree).toList ++ docs) w ∧
      (Pool.ClosesNone engine → (w.retired ++ w.occurrences.map Occurrence.slot).filter
        (fun slot => !slot.closed) = w.occurrences.map Occurrence.slot) ∧
      (∀ slot ∈ w.retired, slot.RefusesAll) ∧ w.retired <+: x.retired ∧
      (∀ k l m n, slotId k m = slotId l n ↔ k = l ∧ m = n) ∧
      (∀ s request, Session.Grows engine s (s.serve engine request).2) ∧
      (∀ p q, Pool.Leads engine p q → p.session.Grows engine q.session) ∧
      ∀ p, Process.Reached p → (p.calls.map Call.attempt).Nodup := by
  have holds : Holds engine ((firstDocument? v.tree).toList ++ docs) w :=
    (holds_ofRecords opened).used used
  refine ⟨holds, ?_, ?_, later.retired_prefix, fun _ _ _ _ => slotId_inj,
    fun _ _ => Session.grows_serve _ _, fun _ _ leads => leads.grows, ?_⟩
  · intro closesNone
    rw [List.filter_append, List.filter_eq_nil_iff.mpr, List.filter_eq_self.mpr, List.nil_append]
    · intro slot member
      obtain ⟨o, inside, rfl⟩ := List.mem_map.mp member
      simp [holds.opened closesNone o inside]
    · intro slot member
      simp [holds.closed slot member]
  · exact fun slot member => Slot.refusesAll_of_closed (holds.closed slot member)
  · exact fun p => Process.nodup_attempts

/-- A page with two diagrams that is rendered, selected again and rendered again. -/
theorem slots_follow_documents_chartPage :
    ∃ (key : NodeKey) (v : Viewport), Viewport.ofRecords {} chartPage none = .ok v ∧
      let w := ((v.render Engine.preview).2.select key).2
      w.retired.map (fun slot => slot.id.text) = ["chart-diagram-0", "chart-diagram-1"] ∧
        w.occurrences.map (fun o => o.slot.id.text) = ["chart-diagram-0", "chart-diagram-1"] ∧
        (∀ slot ∈ w.retired, slot.RefusesAll) ∧
        (w.retired ++ w.occurrences.map Occurrence.slot).filter (fun slot => !slot.closed) =
          w.occurrences.map Occurrence.slot ∧
        w.retired <+: (w.render Engine.preview).2.retired := by
  have slots : (Viewport.ofRecords {} chartPage none).toOption.map (fun v =>
      let w := ((v.render Engine.preview).2.select ⟨"chart", by decide⟩).2
      (w.retired.map (fun slot => slot.id.text), w.occurrences.map fun o => o.slot.id.text)) =
        some (["chart-diagram-0", "chart-diagram-1"], ["chart-diagram-0", "chart-diagram-1"]) := by
    decide +kernel
  cases opened : Viewport.ofRecords {} chartPage none with
  | error failure =>
    rw [opened] at slots
    cases slots
  | ok v =>
    rw [opened] at slots
    obtain ⟨retired, current⟩ := Prod.mk.inj (Option.some.inj slots)
    have untouched : Used Engine.preview v [] v := .start
    have used := untouched.render.select ⟨"chart", by decide⟩
    obtain ⟨-, live, refuse, stays, -⟩ := slots_follow_documents opened used Used.start.render
    exact ⟨_, v, rfl, retired, current, refuse, live Pool.closesNone_preview, stays⟩

end Viewport

end CatalogueViewer
