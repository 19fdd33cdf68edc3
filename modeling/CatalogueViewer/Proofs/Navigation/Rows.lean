import CatalogueViewer.Proofs.Tree.Searching

/-!
# Visible rows

A page is visible if all sections above it are expanded.  Expanding more sections hides no row, and
collapsing a section hides the run of rows below it and nothing else, whatever is collapsed inside
of it.
-/

namespace CatalogueViewer

namespace Rose

variable {α : Type} {enters other : Rose α → Bool} {forest : List (Rose α)} {t u : Rose α}

theorem mem_forestEntered_cons {rest : List (Rose α)} :
    u ∈ forestEntered enters (t :: rest) ↔
      u = t ∨ (enters t = true ∧ u ∈ forestEntered enters t.children) ∨
        u ∈ forestEntered enters rest := by
  rw [forestEntered_cons, List.mem_cons, List.mem_append]
  cases enters t <;> simp

theorem forestEntered_congr (same : ∀ t ∈ forestPreorder forest, enters t = other t) :
    forestEntered enters forest = forestEntered other forest := by
  induction forest using forestInduction with
  | nil => rfl
  | cons t rest inside after =>
    replace inside := inside fun u member => same u (mem_preorder_cons.mpr (.inr (.inl member)))
    replace after := after fun u member => same u (mem_preorder_cons.mpr (.inr (.inr member)))
    rw [forestEntered_cons, forestEntered_cons, same t (mem_preorder_cons.mpr (.inl rfl)), inside,
      after]

theorem forestEntered_sublist_of_imp (more : ∀ t, enters t = true → other t = true)
    (forest : List (Rose α)) :
    (forestEntered enters forest).Sublist (forestEntered other forest) := by
  induction forest using forestInduction with
  | nil => exact .slnil
  | cons t rest inside after =>
    rw [forestEntered_cons, forestEntered_cons]
    refine .cons_cons t (.append ?_ after)
    cases entry : enters t with
    | true => rwa [if_pos rfl, if_pos (more t entry)]
    | false => exact List.nil_sublist _

theorem forestEntered_sublist (enters : Rose α → Bool) (forest : List (Rose α)) :
    (forestEntered enters forest).Sublist (forestPreorder forest) := by
  have all : forestEntered (fun _ => true) forest = forestPreorder forest :=
    forestEntered_of_all fun _ _ none => by cases none
  rw [← all]
  exact forestEntered_sublist_of_imp (fun _ _ => rfl) forest

/-- What is below a tree does not hold it, and nothing is below two siblings. -/
theorem nodup_forestPreorder_cons {rest : List (Rose α)} :
    (forestPreorder (t :: rest)).Nodup ↔
      (t ∉ forestPreorder t.children ∧ t ∉ forestPreorder rest) ∧
        (forestPreorder t.children).Nodup ∧ (forestPreorder rest).Nodup ∧
        ∀ u ∈ forestPreorder t.children, u ∉ forestPreorder rest := by
  rw [forestPreorder, preorder_eq, List.cons_append, List.nodup_cons, List.nodup_append,
    List.mem_append, not_or]
  have apart : (∀ a ∈ forestPreorder t.children, ∀ b ∈ forestPreorder rest, a ≠ b) ↔
      ∀ u ∈ forestPreorder t.children, u ∉ forestPreorder rest :=
    ⟨fun differ u inside after => differ u inside u after rfl,
      fun split u inside v after same => split u inside (same ▸ after)⟩
  rw [apart]

/-- To enter one tree less takes out what was entered below that tree. -/
theorem exists_forestEntered_eq (distinct : (forestPreorder forest).Nodup)
    (met : t ∈ forestEntered enters forest) (entered : enters t = true)
    (closed : other t = false)
    (elsewhere : ∀ u ∈ forestPreorder forest, u ≠ t → other u = enters u) :
    ∃ before after,
      forestEntered enters forest = before ++ t :: (forestEntered enters t.children ++ after) ∧
      forestEntered other forest = before ++ t :: after := by
  induction forest using forestInduction with
  | nil => cases met
  | cons u rest inside onward =>
    obtain ⟨⟨notBelow, notAfter⟩, below, later, apart⟩ := nodup_forestPreorder_cons.mp distinct
    have kept : ∀ v ∈ forestPreorder u.children, v ≠ t → other v = enters v := fun v member =>
      elsewhere v (mem_preorder_cons.mpr (.inr (.inl member)))
    have keptAfter : ∀ v ∈ forestPreorder rest, v ≠ t → other v = enters v := fun v member =>
      elsewhere v (mem_preorder_cons.mpr (.inr (.inr member)))
    have here : u ≠ t → other u = enters u := elsewhere u (mem_preorder_cons.mpr (.inl rfl))
    rw [forestEntered_cons, forestEntered_cons]
    -- `t` stands at one place, so what is entered elsewhere stays.
    rcases mem_forestEntered_cons.mp met with same | ⟨entry, under⟩ | after
    · subst same
      have unchanged : forestEntered other rest = forestEntered enters rest :=
        forestEntered_congr fun v member => keptAfter v member fun same => notAfter (same ▸ member)
      rw [if_pos entered, if_neg (by simp [closed]), unchanged]
      exact ⟨[], forestEntered enters rest, rfl, rfl⟩
    · have inTree := (forestEntered_sublist _ _).subset under
      have differs : u ≠ t := fun same => notBelow (same ▸ inTree)
      have unchanged : forestEntered other rest = forestEntered enters rest :=
        forestEntered_congr fun v member => keptAfter v member fun same =>
          apart t inTree (same ▸ member)
      obtain ⟨before, after, split, less⟩ := inside below under kept
      rw [here differs, if_pos entry, if_pos entry, unchanged, split, less]
      exact ⟨u :: before, after ++ forestEntered enters rest, by simp, by simp⟩
    · have inRest := (forestEntered_sublist _ _).subset after
      have differs : u ≠ t := fun same => notAfter (same ▸ inRest)
      have unchanged : forestEntered other u.children = forestEntered enters u.children :=
        forestEntered_congr fun v member => kept v member fun same =>
          apart t (same ▸ member) inRest
      obtain ⟨before, after, split, less⟩ := onward later after keptAfter
      rw [here differs, unchanged, split, less]
      exact ⟨u :: ((if enters u then forestEntered enters u.children else []) ++ before), after,
        by simp, by simp⟩

end Rose

/-! ### Sets of expanded keys -/

namespace Expansion

variable {e : Expansion} {key x : NodeKey}

theorem eq_of_order {a b : NodeKey} (same : a.order b = .eq) : a = b := by
  obtain ⟨a, _⟩ := a
  obtain ⟨b, _⟩ := b
  simp only [Id.order, compareOfLessAndEq] at same
  split at same
  · cases same
  · split at same
    · next texts =>
      subst texts
      rfl
    · cases same

theorem mem_place_iff {keys : List NodeKey} : x ∈ place key keys ↔ x = key ∨ x ∈ keys := by
  induction keys with
  | nil => simp [place]
  | cons k rest ih =>
    rw [place]
    split
    · rw [List.mem_cons]
    · next same =>
      have keys : key = k := eq_of_order same
      rw [List.mem_cons, keys, or_self_left]
    · rw [List.mem_cons, ih, List.mem_cons, or_left_comm]

theorem contains_insert : (e.insert key).contains x = true ↔ x = key ∨ e.contains x = true := by
  simp only [contains, insert, List.contains_iff_mem, mem_place_iff]

theorem contains_erase : (e.erase key).contains x = true ↔ e.contains x = true ∧ x ≠ key := by
  simp [contains, erase]

theorem toggle_of_expanded (expanded : e.contains key = true) :
    e.toggle key = (false, e.erase key) := if_pos expanded

theorem toggle_of_collapsed (collapsed : e.contains key = false) :
    e.toggle key = (true, e.insert key) := if_neg (by simp [collapsed])

theorem toggle_erase : (e.erase key).toggle key = (true, (e.erase key).insert key) := by
  apply toggle_of_collapsed
  rw [Bool.eq_false_iff]
  exact fun still => (contains_erase.mp still).2 rfl

theorem contains_insert_erase (expanded : e.contains key = true) (x : NodeKey) :
    ((e.erase key).insert key).contains x = e.contains x := by
  rw [Bool.eq_iff_iff, contains_insert, contains_erase]
  constructor
  · rintro (rfl | ⟨still, -⟩)
    · exact expanded
    · exact still
  · intro inside
    by_cases same : x = key
    · exact .inl same
    · exact .inr ⟨inside, same⟩

end Expansion

/-! ### Rows -/

theorem visibleRows_eq (e : Expansion) (forest : List PageTree) :
    visibleRows e forest = Rose.forestEntered e.opens forest := by
  rw [visibleRows, Walk.toList_eq, Walk.awaited, List.flatMap_singleton]

variable {e wider : Expansion} {forest : List PageTree} {t u : PageTree}

theorem opens_iff : e.opens t = true ↔ t.children ≠ [] ∧ e.contains t.value.key = true := by
  simp [Expansion.opens, Rose.isLeaf]

/-- Rows depend on which keys are expanded only. -/
theorem visibleRows_congr (same : ∀ key, e.contains key = wider.contains key)
    (forest : List PageTree) : visibleRows e forest = visibleRows wider forest := by
  rw [visibleRows_eq, visibleRows_eq]
  exact Rose.forestEntered_congr fun t _ => by rw [Expansion.opens, Expansion.opens, same]

theorem visibleRows_sublist_of_imp
    (more : ∀ key, e.contains key = true → wider.contains key = true) (forest : List PageTree) :
    (visibleRows e forest).Sublist (visibleRows wider forest) := by
  rw [visibleRows_eq, visibleRows_eq]
  refine Rose.forestEntered_sublist_of_imp (fun t open_ => ?_) forest
  obtain ⟨some, expanded⟩ := opens_iff.mp open_
  exact opens_iff.mpr ⟨some, more _ expanded⟩

/-- All sections above the page are expanded. -/
def Shown (e : Expansion) (forest : List PageTree) (t : PageTree) : Prop :=
  ∀ u ∈ Rose.forestPreorder forest, t ∈ Rose.forestPreorder u.children →
    e.contains u.value.key = true

theorem shown_cons {rest : List PageTree} : Shown e (u :: rest) t ↔
    (t ∈ Rose.forestPreorder u.children → e.contains u.value.key = true) ∧
      Shown e u.children t ∧ Shown e rest t := by
  simp only [Shown, Rose.mem_preorder_cons, or_imp, forall_and, forall_eq]

theorem shown_of_notMem (absent : t ∉ Rose.forestPreorder forest) : Shown e forest t :=
  fun u member inside =>
    absurd ((Rose.forestPreorder_children_sublist forest u member).subset inside) absent

theorem mem_visibleRows_iff (distinct : (Rose.forestPreorder forest).Nodup) :
    t ∈ visibleRows e forest ↔ t ∈ Rose.forestPreorder forest ∧ Shown e forest t := by
  rw [visibleRows_eq]
  induction forest using Rose.forestInduction with
  | nil => simp [Rose.forestEntered, Rose.forestPreorder]
  | cons u rest inside after =>
    obtain ⟨⟨notBelow, notAfter⟩, below, later, apart⟩ := Rose.nodup_forestPreorder_cons.mp distinct
    rw [Rose.mem_forestEntered_cons, inside below, after later, Rose.mem_preorder_cons, shown_cons,
      opens_iff]
    constructor
    · rintro (rfl | ⟨⟨-, expanded⟩, under, shown⟩ | ⟨follows, shown⟩)
      · exact ⟨.inl rfl, fun under => absurd under notBelow, shown_of_notMem notBelow,
          shown_of_notMem notAfter⟩
      · exact ⟨.inr (.inl under), fun _ => expanded, shown, shown_of_notMem (apart t under)⟩
      · have notUnder := fun under => apart t under follows
        exact ⟨.inr (.inr follows), fun under => absurd under notUnder, shown_of_notMem notUnder,
          shown⟩
    · rintro ⟨rfl | under | follows, expanded, shown, shownAfter⟩
      · exact .inl rfl
      · have some : u.children ≠ [] := by
          intro none
          rw [none] at under
          cases under
        exact .inr (.inl ⟨⟨some, expanded under⟩, under, shown⟩)
      · exact .inr (.inr ⟨follows, shownAfter⟩)

theorem nodup_forestPreorder (distinct : (pageKeys forest).Nodup) :
    (Rose.forestPreorder forest).Nodup := List.Nodup.of_map _ distinct

/-- The rows below a visible section that is expanded are all visible pages below it. -/
theorem mem_rows_below_iff (distinct : (Rose.forestPreorder forest).Nodup)
    (page : t ∈ Rose.forestPreorder forest) (row : u ∈ visibleRows e forest) :
    u ∈ visibleRows e t.children ↔ u ∈ Rose.forestPreorder t.children := by
  have part := Rose.forestPreorder_children_sublist forest t page
  rw [mem_visibleRows_iff (distinct.sublist part)]
  refine ⟨And.left, fun below => ⟨below, fun v member inside => ?_⟩⟩
  exact ((mem_visibleRows_iff distinct).mp row).2 v (part.subset member) inside

theorem exists_visibleRows_erase (distinct : (pageKeys forest).Nodup)
    (row : t ∈ visibleRows e forest) (section_ : t.children ≠ [])
    (expanded : e.contains t.value.key = true) :
    ∃ above after, visibleRows e forest = above ++ t :: (visibleRows e t.children ++ after) ∧
      visibleRows (e.erase t.value.key) forest = above ++ t :: after := by
  have page := ((mem_visibleRows_iff (nodup_forestPreorder distinct)).mp row).1
  simp only [visibleRows_eq] at row ⊢
  apply Rose.exists_forestEntered_eq (nodup_forestPreorder distinct) row
  · exact opens_iff.mpr ⟨section_, expanded⟩
  · rw [Bool.eq_false_iff]
    exact fun still => (Expansion.contains_erase.mp (opens_iff.mp still).2).2 rfl
  · intro u member differs
    have keys : u.value.key ≠ t.value.key := fun same =>
      differs (eq_of_key distinct member page same)
    rw [Bool.eq_iff_iff, opens_iff, opens_iff, Expansion.contains_erase]
    exact and_congr_right' (and_iff_left keys)

theorem Viewport.toggle_eq {v : Viewport} (distinct : (pageKeys v.tree).Nodup)
    (page : t ∈ Rose.forestPreorder v.tree) (section_ : t.children ≠ []) :
    v.toggle t.value.key = ((v.expansion.toggle t.value.key).1,
      { v with expansion := (v.expansion.toggle t.value.key).2 }) := by
  have parent : t.isLeaf = false := by simpa [Rose.isLeaf] using section_
  rw [Viewport.toggle, locate_eq_of_mem distinct page, parent]
  rfl

/-- What the rows of a forest have to do with the expanded keys. -/
structure FollowsExpansion (e : Expansion) (forest : List PageTree) : Prop where
  order : (visibleRows e forest).Sublist (Walk.ofForest forest).toList
  shown : ∀ t, t ∈ visibleRows e forest ↔ t ∈ Rose.forestPreorder forest ∧ Shown e forest t
  grows : ∀ wider : Expansion, (∀ key, e.contains key = true → wider.contains key = true) →
    (visibleRows e forest).Sublist (visibleRows wider forest)
  /-- To collapse a section hides the run of rows below it, and to expand it again shows them. -/
  toggled : ∀ t ∈ visibleRows e forest, t.children ≠ [] → e.contains t.value.key = true →
    ∃ (above below after : List PageTree) (collapsed again : Expansion),
      visibleRows e forest = above ++ t :: (below ++ after) ∧
      (∀ u ∈ visibleRows e forest, u ∈ below ↔ u ∈ Rose.forestPreorder t.children) ∧
      e.toggle t.value.key = (false, collapsed) ∧
      visibleRows collapsed forest = above ++ t :: after ∧
      collapsed.toggle t.value.key = (true, again) ∧
      visibleRows again forest = visibleRows e forest
  /-- A viewport toggles sections in the same way. -/
  viewport : ∀ v : Viewport, v.tree = forest → ∀ t ∈ Rose.forestPreorder forest, t.children ≠ [] →
    v.rows = visibleRows v.expansion forest ∧
      v.toggle t.value.key = ((v.expansion.toggle t.value.key).1,
        { v with expansion := (v.expansion.toggle t.value.key).2 })

/-- The visible rows are the pages below expanded sections only, in the order of a walk.  More
expanded keys hide no row, and to toggle a section changes the run of rows below it and no other. -/
theorem rows_follow_expansion (distinct : (pageKeys forest).Nodup) (e : Expansion) :
    FollowsExpansion e forest where
  order := by
    rw [Walk.toList_eq, Walk.awaited_ofForest, visibleRows_eq]
    exact Rose.forestEntered_sublist _ forest
  shown := fun t => mem_visibleRows_iff (nodup_forestPreorder distinct)
  grows := fun wider more => visibleRows_sublist_of_imp more forest
  toggled := by
    intro t row section_ expanded
    have trees := nodup_forestPreorder distinct
    have page := ((mem_visibleRows_iff trees).mp row).1
    obtain ⟨above, after, split, less⟩ := exists_visibleRows_erase distinct row section_ expanded
    refine ⟨above, visibleRows e t.children, after, _, _, split,
      fun u visible => mem_rows_below_iff trees page visible,
      Expansion.toggle_of_expanded expanded, less, Expansion.toggle_erase, ?_⟩
    exact visibleRows_congr (Expansion.contains_insert_erase expanded) forest
  viewport := by
    rintro v rfl t page section_
    exact ⟨rfl, Viewport.toggle_eq distinct page section_⟩

/-- A collapsed section below an expanded one; a document and a key of no page are expanded too. -/
theorem rows_follow_expansion_guide :
    ∃ (guide api core tour faq gone : NodeKey) (page : NodeKey → List PageTree → PageTree)
      (forest : List PageTree) (e : Expansion),
      forest = [page guide [page api [page core []], page tour []], page faq []] ∧
      e = ⟨[faq, gone, guide]⟩ ∧ gone ∉ pageKeys forest ∧
      (pageKeys forest).Nodup ∧ FollowsExpansion e forest ∧
      (visibleRows e forest).map (fun t => t.value.key) = [guide, api, tour, faq] ∧
      (visibleRows (e.toggle guide).2 forest).map (fun t => t.value.key) = [guide, faq] := by
  refine ⟨⟨"guide", by decide⟩, ⟨"api", by decide⟩, ⟨"core", by decide⟩, ⟨"tour", by decide⟩,
    ⟨"faq", by decide⟩, ⟨"gone", by decide⟩, fun key => .node ⟨key, key.text, 0, none⟩, _, _, rfl,
    rfl, by decide, by decide, rows_follow_expansion (by decide) _, ?_, ?_⟩
  · rw [visibleRows_eq]
    decide
  · rw [visibleRows_eq]
    decide

end CatalogueViewer
