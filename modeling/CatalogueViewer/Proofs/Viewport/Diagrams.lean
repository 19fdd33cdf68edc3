import CatalogueViewer.Proofs.Render.SideBySide
import CatalogueViewer.Proofs.Viewport.Consistency
import Mathlib.Data.List.FinRange

/-!
# Rendering side by side is rendering one by one

A call of rendering submits the diagrams of the document on view in some order, and they go on
side by side in any way.  Each of them comes to what rendering its source alone comes to, and a
second call leaves the same view: `renders_alike`.
-/

namespace CatalogueViewer

namespace Viewport

open Pool (Course Ready)

variable {engine : Engine} {v w x y : Viewport} {p : Pool} {outcomes more : List Outcome}
  {o : Occurrence}

/-- The slots of the diagrams on view, to which nothing has been submitted yet. -/
def pool (v : Viewport) : Pool := v.desk.pool v.renderer

/-- The viewport with what has become of its slots and of the engine. -/
def withPool (v : Viewport) (p : Pool) : Viewport :=
  { v with
    session := p.session
    occurrences := v.occurrences.zipWith (fun o slot => { o with slot := slot }) p.slots }

/-- The outcomes of submissions that were made in some order, in the order of the diagrams. -/
def outcomesOf (v : Viewport) (order : List (Fin v.texts.length)) (p : Pool) : List Outcome :=
  (List.finRange v.texts.length).map fun i => p.outcomeOf (order.idxOf i)

/-- One call of rendering: all diagrams are submitted, in some order, and nothing else is, until all
have ended. -/
inductive Renders (engine : Engine) (v : Viewport) : List Outcome → Viewport → Prop where
  | all {order : List (Fin v.texts.length)} {p : Pool}
      (course : Course engine v.renderer v.texts v.pool order p)
      (complete : order.Perm (List.finRange v.texts.length)) (idle : p.jobs = []) :
      Renders engine v (v.outcomesOf order p) (v.withPool p)

/-- What can become of a viewport whose slots on view nobody closes: it is used, its engine is used
elsewhere, and submissions to its slots are begun, by several calls of rendering or by others, and
given up at any point. -/
inductive Reaches (v : Viewport) : Viewport → Prop where
  | opened : Reaches v v
  | select {w : Viewport} (reaches : Reaches v w) (key : NodeKey) : Reaches v (w.select key).2
  | toggle {w : Viewport} (reaches : Reaches v w) (key : NodeKey) : Reaches v (w.toggle key).2
  | scrollTo {w : Viewport} (reaches : Reaches v w) (offset : Nat) : Reaches v (w.scrollTo offset)
  | elsewhere {w : Viewport} (reaches : Reaches v w) (session : Session) :
      Reaches v { w with session := session }
  | submissions {w : Viewport} {p : Pool} (reaches : Reaches v w)
      (runs : Pool.RunsBy Pool.Move.keepsOpen Engine.preview w.pool p) : Reaches v (w.withPool p)

theorem Renders.reaches (renders : Renders Engine.preview w outcomes x) (reaches : Reaches v w) :
    Reaches v x := by
  obtain ⟨course, _, _⟩ := renders
  exact reaches.submissions course.runsBy

/-! ### Rendering as the viewport does it -/

theorem not_mem_take_finRange {n i : Nat} (inside : i < n) :
    (⟨i, inside⟩ : Fin n) ∉ (List.finRange n).take i := by
  intro member
  obtain ⟨k, bound, same⟩ := List.mem_take_iff_getElem.mp member
  have equal : k = i := by simpa using congrArg Fin.val same
  omega

theorem take_finRange_succ {n i : Nat} (inside : i < n) :
    (List.finRange n).take (i + 1) = (List.finRange n).take i ++ [⟨i, inside⟩] := by
  rw [List.take_add_one, List.getElem?_eq_getElem (by simpa using inside), List.getElem_finRange]
  rfl

/-- Submissions that are started one after the other are a course of their pool. -/
theorem startAll_course {r : Renderer} {texts : List String} {start : Pool} {d : Desk} {i : Nat}
    (course : Course engine r texts start ((List.finRange texts.length).take i) (d.pool r))
    (orderly : (d.pool r).Orderly) (places : d.slots.length = texts.length) :
    Course engine r texts start (List.finRange texts.length)
        ((startAll r i (texts.drop i) d).pool r) ∧
      ((startAll r i (texts.drop i) d).pool r).Orderly := by
  induction left : texts.length - i generalizing i d with
  | zero =>
    have past : texts.length ≤ i := by omega
    rw [List.take_of_length_le (by simpa using past)] at course
    rw [List.drop_eq_nil_of_le past]
    exact ⟨course, orderly⟩
  | succ n ih =>
    have inside : i < texts.length := by omega
    obtain ⟨events, p, step, proceeds⟩ := Desk.start_proceeds engine texts[i] orderly
      (places ▸ inside)
    have begun := (course.submit (i := ⟨i, inside⟩) (not_mem_take_finRange inside) step).proceeds
      proceeds
    rw [← take_finRange_succ inside] at begun
    have started : Pool.Leads engine (d.pool r) ((d.start r i texts[i]).pool r) :=
      (Pool.leads_of_step? step).trans proceeds.leads
    rw [List.drop_eq_getElem_cons inside, startAll]
    exact ih begun (started.orderly orderly) (started.length_slots.trans places) (by omega)

theorem length_texts (v : Viewport) : v.texts.length = v.occurrences.length := List.length_map _

theorem fst_render (v : Viewport) (engine : Engine) :
    (v.render engine).1 =
      v.outcomesOf (List.finRange v.texts.length) ((v.drained engine).pool v.renderer) := by
  simp only [outcomesOf, List.idxOf_finRange]
  rw [render, ← length_texts, ← List.map_coe_finRange_eq_range, List.map_map]
  rfl

/-- What a viewport does when it is asked to render is one of the ways to do it. -/
theorem render_renders (v : Viewport) (engine : Engine) :
    Renders engine v (v.render engine).1 (v.render engine).2 := by
  have orderly : v.pool.Orderly := Pool.orderly_of_no_jobs rfl
  have places : v.desk.slots.length = v.texts.length := by simp [desk, texts]
  have nothing : Course engine v.renderer v.texts v.pool
      ((List.finRange v.texts.length).take 0) v.pool := .start
  obtain ⟨course, kept⟩ := startAll_course nothing orderly places
  have ended : Pool.Proceeds engine _ ((v.drained engine).pool v.renderer) :=
    Desk.runSteps_proceeds none _ kept
  have idle : ((v.drained engine).pool v.renderer).jobs = [] :=
    congrArg (List.map _) (Desk.underway_drain _)
  rw [fst_render]
  exact .all (course.proceeds ended) (.refl _) idle

/-! ### Slots on view are open -/

def AllOpen (v : Viewport) : Prop := ∀ o ∈ v.occurrences, o.slot.closed = false

theorem opened_occurrencesFrom (key : NodeKey) (i n : Nat) (blocks : List Markdown.Block) :
    ∀ o ∈ occurrencesFrom key i n blocks, o.slot.closed = false := by
  fun_induction occurrencesFrom key i n blocks with
  | case1 => exact fun _ member => nomatch member
  | case2 _ _ _ _ ih => exact ih
  | case3 _ _ _ _ _ ih =>
    intro o member
    rcases List.mem_cons.mp member with rfl | later
    · rfl
    · exact ih o later
  | case4 _ _ _ _ _ ih => exact ih

theorem allOpen_select (opened : v.AllOpen) (key : NodeKey) : (v.select key).2.AllOpen := by
  unfold select
  split
  · exact opened
  · exact opened
  · next t _ =>
    unfold refresh
    dsimp only
    split
    · exact fun _ member => nomatch member
    · exact opened_occurrencesFrom _ 0 0 _

theorem allOpen_ofRecords {settings : ViewerSettings} {records : List Record} {task : Option Task}
    (opened : Viewport.ofRecords settings records task = .ok v) : v.AllOpen := by
  rw [ofRecords_eq_map] at opened
  cases checked : assembleChecked settings.maxDepth records >>= buildChecked settings.maxDepth with
  | error failure =>
    rw [checked] at opened
    cases opened
  | ok tree =>
    rw [checked] at opened
    have nothing : (unopened settings task tree).AllOpen := List.forall_mem_nil _
    obtain rfl := Except.ok.inj opened
    dsimp only
    split
    · exact nothing
    · exact allOpen_select nothing _

theorem mem_withPool (member : o ∈ (v.withPool p).occurrences) :
    ∃ before ∈ v.occurrences, ∃ slot ∈ p.slots, o = { before with slot := slot } := by
  obtain ⟨i, inside, rfl⟩ := List.mem_iff_getElem.mp member
  refine ⟨_, List.getElem_mem (List.lt_length_left_of_zipWith inside), _,
    List.getElem_mem (List.lt_length_right_of_zipWith inside), ?_⟩
  exact List.getElem_zipWith

theorem ready_pool (opened : v.AllOpen) : Ready v.texts v.pool where
  places := by simp [pool, texts, desk, Desk.pool, Desk.withJobs]
  opened := by
    intro slot member
    obtain ⟨o, inside, rfl⟩ := List.mem_map.mp member
    exact opened o inside
  jobs := rfl
  finished := rfl
  submitted := rfl

theorem undisturbed_pool (opened : v.AllOpen) : v.pool.Undisturbed where
  opened := (ready_pool opened).opened
  calm _ member := nomatch member

theorem Reaches.allOpen (reaches : Reaches v w) (opened : v.AllOpen) : w.AllOpen := by
  induction reaches with
  | opened => exact opened
  | select _ key before => exact allOpen_select before key
  | toggle _ key before =>
    unfold Viewport.toggle
    split <;> exact before
  | scrollTo _ _ before => exact before
  | elsewhere _ _ before => exact before
  | submissions _ runs before =>
    intro o member
    obtain ⟨_, _, slot, there, rfl⟩ := mem_withPool member
    exact ((undisturbed_pool before).runsBy Pool.closesNone_preview runs).opened slot there

/-! ### The diagrams stay those of the document -/

theorem map_id_withPool (leads : Pool.Leads engine v.pool p) :
    p.slots.map Slot.id = v.occurrences.map fun o => o.slot.id := by
  have same := leads.map_id_slots
  rw [same, pool, desk, Desk.pool, Desk.withJobs, List.map_map]
  rfl

theorem length_withPool (leads : Pool.Leads engine v.pool p) :
    (v.withPool p).occurrences.length = v.occurrences.length := by
  have length : p.slots.length = v.occurrences.length := by
    rw [← List.length_map Slot.id, map_id_withPool leads, List.length_map]
  rw [withPool, List.length_zipWith, length, Nat.min_self]

theorem Reaches.consistent {level : Nat} {tree : List PageTree} (reaches : Reaches v w)
    (consistent : Consistent level tree v) : Consistent level tree w := by
  induction reaches with
  | opened => exact consistent
  | select _ key before => exact select_consistent before key
  | toggle _ key before => exact toggle_consistent before key
  | scrollTo _ _ before => exact before.frame rfl rfl rfl rfl rfl rfl before.expanded
  | elsewhere _ _ before => exact before.frame rfl rfl rfl rfl rfl rfl before.expanded
  | submissions _ runs before =>
    have labels := map_label_zipWith (map_id_withPool (Pool.RunsBy.leads runs))
    exact before.frame rfl rfl rfl rfl rfl labels before.expanded

/-- The diagrams of a viewport are the blocks that are diagrams, in order. -/
theorem Consistent.diagrams {level : Nat} {tree : List PageTree}
    (consistent : Consistent level tree v) :
    v.occurrences.map (fun o => (o.block, o.source)) = v.blocks.zipIdx.filterMap diagramAt? := by
  rcases consistent.shown with nothing | ⟨t, _, shows⟩
  · rw [nothing.occurrences, nothing.blocks]
    rfl
  · have labels := congrArg (List.map fun l : Label => (l.block, l.source)) shows.diagrams
    rw [List.map_map] at labels
    refine labels.trans ?_
    apply List.ext_getElem?
    intro i
    rw [diagramsOf, List.getElem?_map, List.getElem?_mapIdx, Option.map_map]
    exact congrFun Option.map_id _

/-! ### What each diagram comes to -/

/-- What a viewport shows of a diagram, and where. -/
structure Face where
  block : Nat
  source : String
  slot : SlotId
  view : DiagramView

def face (o : Occurrence) : Face := ⟨o.block, o.source, o.slot.id, o.slot.result.view⟩

/-- What will be shown of the diagram once it has been rendered. -/
def Face.rendered (f : Face) : Face := { f with view := Preview.textView f.source }

theorem Renders.diagram (renders : Renders Engine.preview v outcomes x)
    (opened : v.AllOpen) {i : Nat}
    (found : v.occurrences[i]? = some o) :
    ∃ slot, outcomes[i]? = some (.committed slot.result) ∧
      x.occurrences[i]? = some { o with slot := slot } ∧ slot.id = o.slot.id ∧
      slot.result.view = Preview.textView o.source := by
  obtain @⟨order, p, course, complete, idle⟩ := renders
  obtain ⟨inside, same⟩ := List.getElem?_eq_some_iff.mp found
  have bound : i < v.texts.length := by rwa [length_texts]
  have text : v.texts[i] = o.source := by rw [← same]; exact List.getElem_map _
  obtain ⟨slot, place, outcome, view⟩ := (course.onCourse (ready_pool opened)).keeps idle
    (complete.mem_iff.mpr (List.mem_finRange ⟨i, bound⟩))
  refine ⟨slot, ?_, ?_, ?_, view.trans (congrArg Preview.textView text)⟩
  · rw [outcomesOf, List.getElem?_map, List.getElem?_eq_getElem (by simpa using bound),
      List.getElem_finRange]
    exact congrArg some outcome
  · rw [withPool, List.getElem?_zipWith, found, place]
  · have ids := congrArg (·[i]?) (map_id_withPool course.leads)
    dsimp only at ids place
    rw [List.getElem?_map, List.getElem?_map, place, found] at ids
    exact Option.some.inj ids

theorem Renders.lengths (renders : Renders engine v outcomes x) :
    outcomes.length = v.occurrences.length ∧ x.occurrences.length = v.occurrences.length := by
  obtain ⟨course, _, _⟩ := renders
  refine ⟨?_, length_withPool course.leads⟩
  rw [outcomesOf, List.length_map, List.length_finRange, length_texts]

/-- Rendering leaves a text to look at in the place of each diagram. -/
theorem Renders.faces (renders : Renders Engine.preview v outcomes x)
    (opened : v.AllOpen) :
    x.occurrences.map face = (v.occurrences.map face).map Face.rendered := by
  apply List.ext_getElem?
  intro i
  rw [List.map_map, List.getElem?_map, List.getElem?_map]
  cases found : v.occurrences[i]? with
  | none =>
    have past := List.getElem?_eq_none_iff.mp found
    rw [← renders.lengths.2] at past
    rw [List.getElem?_eq_none past]
    rfl
  | some o =>
    obtain ⟨slot, -, there, id, view⟩ := renders.diagram opened found
    rw [there, Option.map_some, Option.map_some]
    simp only [face, id, view, Function.comp, Face.rendered]

/-! ### What is shown of the document -/

/-- What is shown of a block, given what is shown of the diagrams. -/
def blockView (faces : List Face) (i : Nat) : Markdown.Block → BlockView
  | .text source => .text source
  | .code b =>
    match faces.find? fun f => f.block == i with
    | some f => .diagram f.slot f.source f.view
    | none => .code b.language b.text

theorem view_eq (v : Viewport) : v.view = v.blocks.mapIdx (blockView (v.occurrences.map face)) := by
  have same : v.viewBlock = blockView (v.occurrences.map face) := by
    funext i b
    cases b with
    | text source => rfl
    | code b =>
      rw [viewBlock, blockView, List.find?_map]
      have places : ((fun f : Face => f.block == i) ∘ face) = fun o => o.block == i := rfl
      rw [places]
      cases v.occurrences.find? fun o => o.block == i <;> rfl
  rw [view, same]

/-- What is shown of the block in some place: a diagram that is a diagram, and the text of any
other one. -/
inductive Shown (v : Viewport) : Markdown.Block × Nat → BlockView → Prop where
  | text (source : String) (i : Nat) : Shown v (.text source, i) (.text source)
  | code {b : Markdown.CodeBlock} (plain : b.isDiagram = false) (i : Nat) :
      Shown v (.code b, i) (.code b.language b.text)
  | diagram {b : Markdown.CodeBlock} {o : Occurrence} (diagram : b.isDiagram = true)
      (member : o ∈ v.occurrences) (source : o.source = b.text)
      (ready : o.slot.result.view ≠ .pending) :
      Shown v (.code b, o.block) (.diagram o.slot.id b.text o.slot.result.view)

theorem mem_diagrams {blocks : List Markdown.Block} {i : Nat} {source : String} :
    (i, source) ∈ blocks.zipIdx.filterMap diagramAt? ↔
      ∃ b, blocks[i]? = some (.code b) ∧ b.isDiagram = true ∧ b.text = source := by
  rw [List.mem_filterMap]
  constructor
  · rintro ⟨⟨block, k⟩, member, place⟩
    have there := List.mk_mem_zipIdx_iff_getElem?.mp member
    cases block with
    | text source => cases place
    | code b =>
      by_cases diagram : b.isDiagram = true
      · rw [diagramAt?, if_pos diagram] at place
        cases place
        exact ⟨b, there, diagram, rfl⟩
      · rw [diagramAt?, if_neg diagram] at place
        cases place
  · rintro ⟨b, there, diagram, rfl⟩
    exact ⟨(.code b, i), List.mk_mem_zipIdx_iff_getElem?.mpr there, if_pos diagram⟩

theorem shown_viewBlock
    (diagrams : v.occurrences.map (fun o => (o.block, o.source)) =
      v.blocks.zipIdx.filterMap diagramAt?)
    (ready : ∀ o ∈ v.occurrences, o.slot.result.view ≠ .pending) {i : Nat} {b : Markdown.Block}
    (found : v.blocks[i]? = some b) : v.Shown (b, i) (v.viewBlock i b) := by
  cases b with
  | text source => exact .text source i
  | code b =>
    unfold viewBlock
    cases first : v.occurrences.find? fun o => o.block == i with
    | none =>
      refine .code ?_ i
      by_contra diagram
      have member := mem_diagrams.mpr ⟨b, found, Bool.not_eq_false _ ▸ diagram, rfl⟩
      rw [← diagrams] at member
      obtain ⟨o, inside, same⟩ := List.mem_map.mp member
      have other := List.find?_eq_none.mp first o inside
      exact other (beq_iff_eq.mpr (congrArg Prod.fst same))
    | some o =>
      have inside := List.mem_of_find?_eq_some first
      have place : o.block = i := by simpa using List.find?_some first
      subst place
      have member : (o.block, o.source) ∈ v.blocks.zipIdx.filterMap diagramAt? :=
        diagrams ▸ List.mem_map_of_mem inside
      obtain ⟨same, there, diagram, text⟩ := mem_diagrams.mp member
      rw [found] at there
      cases there
      have shown := Shown.diagram diagram inside text.symm (ready o inside)
      rwa [text] at shown

/-! ### The whole document -/

/-- The outcome is the result that the diagram shows, and that rendering its source alone comes
to. -/
def CommitsAlone (r : Renderer) (outcome : Outcome) (o : Occurrence) : Prop :=
  outcome = .committed o.slot.result ∧
    ∀ session id, o.slot.result.Alike (r.render Engine.preview session id o.source).1

/-- What a call of rendering comes to: one outcome for each diagram, in order, and an entry in the
view for each block. -/
structure Rendered (v : Viewport) (outcomes : List Outcome) (x : Viewport) : Prop where
  blocks : x.blocks = v.blocks
  labels : x.occurrences.map Occurrence.label = v.occurrences.map Occurrence.label
  diagrams : x.occurrences.map (fun o => (o.block, o.source)) =
    x.blocks.zipIdx.filterMap diagramAt?
  outcomes : List.Forall₂ (CommitsAlone v.renderer) outcomes x.occurrences
  shown : List.Forall₂ x.Shown x.blocks.zipIdx x.view

theorem Renders.committed (renders : Renders Engine.preview v outcomes x)
    (opened : v.AllOpen) : List.Forall₂ (CommitsAlone v.renderer) outcomes x.occurrences := by
  obtain ⟨length, same⟩ := renders.lengths
  refine List.forall₂_iff_get.mpr ⟨length.trans same.symm, fun i inside within => ?_⟩
  obtain ⟨slot, outcome, there, -, view⟩ := renders.diagram opened
    (List.getElem?_eq_getElem (same ▸ within))
  rw [List.get_eq_getElem, List.get_eq_getElem, (List.getElem?_eq_some_iff.mp outcome).2,
    (List.getElem?_eq_some_iff.mp there).2]
  refine ⟨rfl, fun session id => Result.alike_of_view ?_⟩
  rw [view, Preview.view_render_preview]

theorem Renders.ready (renders : Renders Engine.preview v outcomes x)
    (opened : v.AllOpen) : ∀ o ∈ x.occurrences, o.slot.result.view ≠ .pending := by
  intro o member
  have shown : face o ∈ x.occurrences.map face := List.mem_map_of_mem member
  rw [renders.faces opened] at shown
  obtain ⟨f, -, same⟩ := List.mem_map.mp shown
  have view : o.slot.result.view = Preview.textView f.source := congrArg Face.view same.symm
  rw [view]
  exact Preview.textView_ne_pending _

theorem Renders.rendered {level : Nat} {tree : List PageTree}
    (renders : Renders Engine.preview v outcomes x) (consistent : Consistent level tree v)
    (opened : v.AllOpen) : Rendered v outcomes x := by
  have later := (renders.reaches .opened).consistent consistent
  have blocks : x.blocks = v.blocks := by
    obtain ⟨_, _, _⟩ := renders
    rfl
  have labels : x.occurrences.map Occurrence.label = v.occurrences.map Occurrence.label := by
    obtain ⟨course, _, _⟩ := renders
    exact map_label_zipWith (map_id_withPool course.leads)
  refine ⟨blocks, labels, later.diagrams, renders.committed opened, ?_⟩
  refine List.forall₂_iff_get.mpr ⟨by simp [view], fun i inside within => ?_⟩
  have bound : i < x.blocks.length := by simpa using inside
  have shown := shown_viewBlock later.diagrams (renders.ready opened)
    (List.getElem?_eq_getElem bound)
  simpa [view] using shown

theorem Renders.view_again (renders : Renders Engine.preview v outcomes x)
    (again : Renders Engine.preview x more y)
    (opened : v.AllOpen) : y.view = x.view := by
  have still := (renders.reaches .opened).allOpen opened
  have blocks : y.blocks = x.blocks := by
    obtain ⟨_, _, _⟩ := again
    rfl
  rw [view_eq, view_eq, again.faces still, renders.faces opened, blocks, List.map_map]
  rfl

/-- Whatever order the diagrams are submitted in, and however they go on, rendering them side by
side comes to an end, and to what rendering them one by one comes to. -/
structure RendersAlike (v : Viewport) : Prop where
  asked : Renders Engine.preview v (v.render Engine.preview).1 (v.render Engine.preview).2
  ends : ∀ started rest p, Course Engine.preview v.renderer v.texts v.pool started p →
    (started ++ rest).Perm (List.finRange v.texts.length) →
    ∃ q, Pool.Leads Engine.preview p q ∧
      Course Engine.preview v.renderer v.texts v.pool (started ++ rest) q ∧ q.jobs = []
  nearer : ∀ started p q, Course Engine.preview v.renderer v.texts v.pool started p →
    Pool.StepBy Pool.Move.works Engine.preview p q → Pool.movesOf q.jobs < Pool.movesOf p.jobs
  rendered : ∀ outcomes x, Renders Engine.preview v outcomes x → Rendered v outcomes x
  again : ∀ outcomes x more y, Renders Engine.preview v outcomes x →
    Renders Engine.preview x more y → y.view = x.view

theorem renders_alike {settings : ViewerSettings} {records : List Record} {task : Option Task}
    (opened : Viewport.ofRecords settings records task = .ok v) (reaches : Reaches v w) :
    RendersAlike w := by
  have consistent := reaches.consistent
    (ofRecords_consistent (nodup_pageKeys_ofRecords opened) opened).1
  have slots := reaches.allOpen (allOpen_ofRecords opened)
  have ready := ready_pool slots
  constructor
  case asked => exact render_renders w Engine.preview
  case ends => exact fun started rest p course all => course.exists_all ready all
  case nearer =>
    intro started p q course step
    exact ((course.onCourse ready).onward step).movesOf_lt
  case rendered => exact fun outcomes x renders => renders.rendered consistent slots
  case again => exact fun outcomes x more y renders again => renders.view_again again slots

/-- A page with a chart, some text, and a block that is said to be a diagram but is none. -/
def chartPage : List Record :=
  [.node
    { id := ⟨"chart", by decide⟩
      content := some "```mermaid\ngraph TD\nA --> B\n```\nText\n```mermaid\nnone\n```\n" } []]

/-- A page that has been rendered once. -/
theorem renders_alike_chartPage :
    ∃ v, Viewport.ofRecords {} chartPage none = .ok v ∧
      (v.render Engine.preview).2.texts = ["graph TD\nA --> B\n", "none\n"] ∧
      RendersAlike (v.render Engine.preview).2 := by
  have texts : (Viewport.ofRecords {} chartPage none).toOption.map (fun v =>
      (v.render Engine.preview).2.texts) = some ["graph TD\nA --> B\n", "none\n"] := by
    decide +kernel
  cases opened : Viewport.ofRecords {} chartPage none with
  | error failure =>
    rw [opened] at texts
    cases texts
  | ok v =>
    rw [opened] at texts
    exact ⟨v, rfl, Option.some.inj texts,
      renders_alike opened ((render_renders v Engine.preview).reaches .opened)⟩

end Viewport

end CatalogueViewer
