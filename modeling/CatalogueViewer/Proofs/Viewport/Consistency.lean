import CatalogueViewer.Proofs.Navigation.Rows
import CatalogueViewer.Proofs.Viewport.Rendering

/-!
# What a viewport shows

The outline, the blocks and the diagrams of a viewport are those of the selected document, and only
sections are expanded, however the viewport has been used since it was opened:
`sound_performAll`.
-/

namespace CatalogueViewer

namespace Viewport

inductive Request where
  | select (key : NodeKey)
  | toggle (key : NodeKey)
  | scrollTo (offset : Nat)
  | render (engine : Engine)

def perform (v : Viewport) : Request → Viewport
  | .select key => (v.select key).2
  | .toggle key => (v.toggle key).2
  | .scrollTo offset => v.scrollTo offset
  | .render engine => (v.render engine).2

def performAll (v : Viewport) (requests : List Request) : Viewport := requests.foldl perform v

/-- The place and the text of a block that is a diagram. -/
def diagramAt? : Markdown.Block × Nat → Option (Nat × String)
  | (.code b, i) => if b.isDiagram then some (i, b.text) else none
  | (.text _, _) => none

/-- The diagrams of a document, counted in order. -/
def diagramsOf (key : NodeKey) (blocks : List Markdown.Block) : List Label :=
  (blocks.zipIdx.filterMap diagramAt?).mapIdx fun n d =>
    ⟨d.1, d.2, key.text ++ ("-diagram-" ++ toString n)⟩

/-- The page is on view, with its diagrams. -/
structure Shows (v : Viewport) (t : PageTree) : Prop where
  leaf : t.isLeaf = true
  active : v.selection.active = some t.value.key
  title : v.selection.title = t.value.title
  body : v.selection.body = t.value.content.getD ""
  diagrams : v.occurrences.map Occurrence.label = diagramsOf t.value.key v.blocks

/-- Nothing has been selected yet. -/
structure ShowsNothing (v : Viewport) : Prop where
  selection : v.selection = .empty
  outline : v.outline = []
  blocks : v.blocks = []
  occurrences : v.occurrences = []

def HasSection (tree : List PageTree) (key : NodeKey) : Prop :=
  ∃ t ∈ Rose.forestPreorder tree, t.isLeaf = false ∧ t.value.key = key

structure Consistent (level : Nat) (tree : List PageTree) (v : Viewport) : Prop where
  built : v.tree = tree
  limit : v.outlineLevel = level
  shown : v.ShowsNothing ∨ ∃ t ∈ Rose.forestPreorder tree, v.Shows t
  outline : v.outline = Markdown.outline level v.selection.body
  blocks : v.blocks = Markdown.blocks v.selection.body
  expanded : ∀ key ∈ v.expansion.keys, HasSection tree key

variable {level : Nat} {tree : List PageTree} {v : Viewport} {t : PageTree} {key : NodeKey}

/-- What a request does to the slots, the scroll position and the session does not matter. -/
theorem Consistent.frame {w : Viewport} (consistent : Consistent level tree v)
    (built : w.tree = v.tree) (limit : w.outlineLevel = v.outlineLevel)
    (selection : w.selection = v.selection) (outline : w.outline = v.outline)
    (blocks : w.blocks = v.blocks)
    (labels : w.occurrences.map Occurrence.label = v.occurrences.map Occurrence.label)
    (expanded : ∀ key ∈ w.expansion.keys, HasSection tree key) : Consistent level tree w where
  built := built.trans consistent.built
  limit := limit.trans consistent.limit
  shown := by
    rcases consistent.shown with nothing | ⟨t, member, shows⟩
    · rw [nothing.occurrences] at labels
      exact Or.inl ⟨selection.trans nothing.selection, outline.trans nothing.outline,
        blocks.trans nothing.blocks, List.map_eq_nil_iff.mp labels⟩
    · refine Or.inr ⟨t, member, shows.leaf, ?_, ?_, ?_, ?_⟩
      · rw [selection, shows.active]
      · rw [selection, shows.title]
      · rw [selection, shows.body]
      · rw [labels, blocks, shows.diagrams]
  outline := by rw [outline, selection, consistent.outline]
  blocks := by rw [blocks, selection, consistent.blocks]
  expanded := expanded

/-! ### Selecting -/

theorem labels_occurrencesFrom (key : NodeKey) (i n : Nat) (blocks : List Markdown.Block) :
    (occurrencesFrom key i n blocks).map Occurrence.label =
      ((blocks.zipIdx i).filterMap diagramAt?).mapIdx fun k d =>
        ⟨d.1, d.2, key.text ++ ("-diagram-" ++ toString (n + k))⟩ := by
  induction blocks generalizing i n with
  | nil => rfl
  | cons b rest ih =>
    rw [List.zipIdx_cons]
    match b with
    | .text source => exact ih (i + 1) n
    | .code b =>
      rw [occurrencesFrom]
      by_cases diagram : b.isDiagram = true
      · have here : diagramAt? (.code b, i) = some (i, b.text) := if_pos diagram
        rw [if_pos diagram, List.map_cons, ih, List.filterMap_cons_some here, List.mapIdx_cons]
        simp only [Occurrence.label, slotId, Id.append, Nat.add_zero, Nat.add_assoc,
          Nat.add_comm 1]
      · have here : diagramAt? (.code b, i) = none := if_neg diagram
        rw [if_neg diagram, ih, List.filterMap_cons_none here]

/-- The viewport after it has turned to a document. -/
def turnTo (v : Viewport) (t : PageTree) : Viewport :=
  { v with selection := (v.selection.selectLeaf t).2 }.refresh

theorem turnTo_shows (v : Viewport) (leaf : t.isLeaf = true) : (v.turnTo t).Shows t := by
  have selected : (v.selection.selectLeaf t).2 =
      ⟨some t.value.key, t.value.title, t.value.body⟩ := by
    rw [Selection.selectLeaf, if_pos leaf]
  refine ⟨leaf, ?_, ?_, ?_, ?_⟩
  · exact congrArg Selection.active selected
  · exact congrArg Selection.title selected
  · exact congrArg Selection.body selected
  · have labels := labels_occurrencesFrom t.value.key 0 0 (Markdown.blocks t.value.body)
    simp only [Nat.zero_add] at labels
    simp only [turnTo, refresh, selected, diagramsOf]
    exact labels

theorem turnTo_consistent (consistent : Consistent level tree v)
    (member : t ∈ Rose.forestPreorder tree) (leaf : t.isLeaf = true) :
    Consistent level tree (v.turnTo t) where
  built := consistent.built
  limit := consistent.limit
  shown := Or.inr ⟨t, member, turnTo_shows v leaf⟩
  outline := by
    rw [← consistent.limit]
    rfl
  blocks := rfl
  expanded := consistent.expanded

theorem select_consistent (consistent : Consistent level tree v) (key : NodeKey) :
    Consistent level tree (v.select key).2 := by
  unfold select
  split
  · exact consistent
  · exact consistent
  · next t located =>
    rw [consistent.built] at located
    obtain ⟨member, _, leaf⟩ := mem_of_locate located
    exact turnTo_consistent consistent member leaf

/-! ### Expanding -/

theorem mem_ofKeys {x : NodeKey} {keys : List NodeKey}
    (member : x ∈ (Expansion.ofKeys keys).keys) : x ∈ keys := by
  have folded : ∀ e : Expansion, x ∈ (keys.foldl Expansion.insert e).keys →
      x ∈ e.keys ∨ x ∈ keys := by
    clear member
    induction keys with
    | nil => exact fun e here => Or.inl here
    | cons k rest ih =>
      intro e here
      rcases ih (e.insert k) here with first | later
      · exact (Expansion.mem_place_iff.mp first).elim (fun same => Or.inr (same ▸ List.mem_cons_self)) Or.inl
      · exact Or.inr (List.mem_cons_of_mem _ later)
  exact (folded .empty member).resolve_left (List.not_mem_nil)

theorem mem_toggle {e : Expansion} {k x : NodeKey} (member : x ∈ (e.toggle k).2.keys) :
    x = k ∨ x ∈ e.keys := by
  rw [Expansion.toggle] at member
  split at member
  · exact Or.inr (List.mem_filter.mp member).1
  · exact Expansion.mem_place_iff.mp member

theorem toggle_consistent (consistent : Consistent level tree v) (key : NodeKey) :
    Consistent level tree (v.toggle key).2 := by
  unfold toggle
  split
  · next t located =>
    rw [consistent.built] at located
    obtain ⟨member, names, kind⟩ := mem_of_locate located
    refine consistent.frame rfl rfl rfl rfl rfl rfl fun k inside => ?_
    rcases mem_toggle inside with rfl | old
    · exact ⟨t, member, kind, names⟩
    · exact consistent.expanded k old
  · exact consistent

/-! ### Runs -/

theorem perform_consistent (consistent : Consistent level tree v) (request : Request) :
    Consistent level tree (v.perform request) := by
  cases request with
  | select key => exact select_consistent consistent key
  | toggle key => exact toggle_consistent consistent key
  | scrollTo offset => exact consistent.frame rfl rfl rfl rfl rfl rfl consistent.expanded
  | render engine =>
    exact consistent.frame rfl rfl rfl rfl rfl (labels_render v engine) consistent.expanded

theorem performAll_consistent (consistent : Consistent level tree v) (requests : List Request) :
    Consistent level tree (v.performAll requests) := by
  induction requests generalizing v with
  | nil => exact consistent
  | cons request rest ih => exact ih (perform_consistent consistent request)

/-! ### Opening -/

theorem hasSection_of_initial (member : key ∈ Expansion.initial tree) : HasSection tree key := by
  obtain ⟨t, first, same⟩ := List.mem_map.mp member
  obtain ⟨top, kind⟩ := List.mem_filter.mp first
  exact ⟨t, Rose.mem_forestPreorder_of_mem top, by simpa using kind, same⟩

theorem select_of_leaf (distinct : (pageKeys v.tree).Nodup)
    (member : t ∈ Rose.forestPreorder v.tree) (leaf : t.isLeaf = true) :
    v.select t.value.key = (.selected, v.turnTo t) := by
  unfold select
  rw [locate_eq_of_mem distinct member, if_pos leaf]
  rfl

theorem unopened_consistent (settings : ViewerSettings) (task : Option Task)
    (tree : List PageTree) :
    Consistent settings.outlineLevel tree (unopened settings task tree) where
  built := rfl
  limit := rfl
  shown := Or.inl ⟨rfl, rfl, rfl, rfl⟩
  outline := rfl
  blocks := rfl
  expanded := fun _ inside => hasSection_of_initial (mem_ofKeys inside)

/-- A viewport that has just been opened. -/
theorem ofRecords_consistent {settings : ViewerSettings} {records : List Record}
    {task : Option Task} (distinct : (pageKeys v.tree).Nodup)
    (opened : Viewport.ofRecords settings records task = .ok v) :
    Consistent settings.outlineLevel v.tree v ∧
      v.selection.active = (firstDocument? v.tree).map fun t => t.value.key := by
  rw [ofRecords_eq_map] at opened
  cases checked : assembleChecked settings.maxDepth records >>= buildChecked settings.maxDepth with
  | error failure =>
    rw [checked] at opened
    cases opened
  | ok tree =>
    rw [checked] at opened
    have consistent := unopened_consistent settings task tree
    replace opened := Except.ok.inj opened
    dsimp only at opened
    cases first : firstDocument? tree with
    | none =>
      rw [first] at opened
      subst opened
      exact ⟨consistent, by rw [consistent.built, first]; rfl⟩
    | some t =>
      simp only [first] at opened
      have same : v.tree = tree := by rw [← opened, tree_select, consistent.built]
      rw [same] at distinct ⊢
      obtain ⟨member, leaf⟩ := leaf_of_firstDocument? first
      rw [← opened, first]
      refine ⟨select_consistent consistent _, ?_⟩
      rw [select_of_leaf (v := unopened settings task tree) distinct member leaf]
      exact (turnTo_shows _ leaf).active

theorem exists_ofRecords_ok {settings : ViewerSettings} {records : List Record}
    {tree : List PageTree} (task : Option Task)
    (checked : assembleChecked settings.maxDepth records >>= buildChecked settings.maxDepth =
      .ok tree) : ∃ v, Viewport.ofRecords settings records task = .ok v := by
  rw [ofRecords_eq_map, checked]
  exact ⟨_, rfl⟩

theorem nodup_pageKeys_ofRecords {settings : ViewerSettings} {records : List Record}
    {task : Option Task} (opened : Viewport.ofRecords settings records task = .ok v) :
    (pageKeys v.tree).Nodup := by
  have checked := map_tree_ofRecords settings records task
  rw [opened] at checked
  cases assembled : assembleChecked settings.maxDepth records with
  | error failure =>
    rw [assembled] at checked
    cases checked
  | ok forest =>
    rw [assembled] at checked
    exact nodup_pageKeys_of_buildChecked checked.symm

/-- A viewport `w` that has been opened as `v` and used since. -/
structure Sound (settings : ViewerSettings) (records : List Record) (v w : Viewport) : Prop where
  opened : assembleChecked settings.maxDepth records >>= buildChecked settings.maxDepth =
    .ok v.tree
  distinct : (pageKeys v.tree).Nodup
  first : v.selection.active = ((Rose.forestPreorder v.tree).find? fun t =>
    t.isLeaf && t.value.hasContent).map fun t => t.value.key
  consistent : Consistent settings.outlineLevel v.tree w
  selected : ∀ t ∈ Rose.forestPreorder v.tree, t.isLeaf = true →
    (w.select t.value.key).1 = .selected ∧ (w.select t.value.key).2.Shows t ∧
      (w.select t.value.key).2.scroll = 0
  ignored : ∀ key, HasSection v.tree key → w.select key = (.ignoredSection, w)
  notFound : ∀ key, key ∉ pageKeys v.tree → w.select key = (.notFound, w)
  collapsed : ∀ key, ¬ HasSection v.tree key → w.toggle key = (false, w)

/-- However it is used, a viewport shows what belongs to one document of the tree it was opened
with, and what cannot be selected or expanded changes nothing. -/
theorem sound_performAll {settings : ViewerSettings} {records : List Record} {task : Option Task}
    (opened : Viewport.ofRecords settings records task = .ok v) (requests : List Request) :
    Sound settings records v (v.performAll requests) := by
  have tree := map_tree_ofRecords settings records task
  rw [opened] at tree
  have distinct := nodup_pageKeys_ofRecords opened
  obtain ⟨consistent, first⟩ := ofRecords_consistent distinct opened
  have later := performAll_consistent consistent requests
  have same := later.built
  generalize v.performAll requests = w at later same ⊢
  refine ⟨tree.symm, distinct, by rw [first, firstDocument?_eq], later, ?_, ?_, ?_, ?_⟩
  · intro t member leaf
    rw [← same] at distinct member
    rw [select_of_leaf distinct member leaf]
    exact ⟨rfl, turnTo_shows w leaf, rfl⟩
  · rintro key ⟨t, member, kind, rfl⟩
    unfold select
    rw [same, locate_eq_of_mem distinct member, kind]
    rfl
  · intro key unknown
    unfold select
    rw [same, locate_eq_none unknown]
  · intro key none
    unfold toggle
    rw [same]
    split
    · next t located =>
      obtain ⟨member, names, kind⟩ := mem_of_locate located
      exact absurd ⟨t, member, kind, names⟩ none
    · rfl

/-- A section with one document, opened and used. -/
theorem sound_performAll_guide :
    ∃ (guide start : NodeKey) (records : List Record) (v : Viewport),
      records = [.node { id := guide } [.node { id := start, content := some "# Start" } []]] ∧
      Viewport.ofRecords {} records none = .ok v ∧
      Sound {} records v
        (v.performAll [.toggle guide, .scrollTo 5, .select guide, .select start]) := by
  have keys : ∃ (guide start : NodeKey) (records : List Record), guide ≠ start ∧
      records = [.node { id := guide } [.node { id := start, content := some "# Start" } []]] ∧
      assembleChecked 64 records = .ok records :=
    ⟨⟨"guide", by decide⟩, ⟨"start", by decide⟩, _, by decide, rfl,
      by simp [assembleChecked, assembleWith, Assembly.Links.ofRecords, Rose.value]⟩
  obtain ⟨guide, start, records, different, same, assembled⟩ := keys
  have low : Rose.forestHeight records ≤ 64 := by
    rw [same]
    simp [Rose.forestHeight, Rose.height]
  have distinct : (forestIds records).Nodup := by
    rw [same]
    simp [forestIds, Rose.forestPreorder, Rose.preorder, Rose.value, different]
  obtain ⟨tree, built⟩ := (exists_buildChecked_ok_iff 64 records).mpr ⟨low, distinct⟩
  have limits : ({} : ViewerSettings).maxDepth = 64 := rfl
  obtain ⟨v, opened⟩ : ∃ v, Viewport.ofRecords {} records none = .ok v := by
    apply exists_ofRecords_ok
    rw [limits, assembled]
    exact built
  exact ⟨guide, start, records, v, same, opened, sound_performAll opened _⟩

end Viewport

end CatalogueViewer
