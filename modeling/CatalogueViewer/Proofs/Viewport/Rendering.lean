import CatalogueViewer.Proofs.Render.DeskRuns
import CatalogueViewer.Viewport

/-!
# Rendering the diagrams on view

Rendering submits the diagrams to their slots and waits.  Whatever the engine answers, the diagrams
stay in their places, with their sources and their slots: `labels_render`.
-/

namespace CatalogueViewer

theorem map_id_set {slots : List Slot} {i : Nat} {old new : Slot} (found : slots[i]? = some old)
    (same : new.id = old.id) : (slots.set i new).map Slot.id = slots.map Slot.id := by
  apply List.ext_getElem?
  intro k
  rw [List.getElem?_map, List.getElem?_map]
  by_cases here : i = k
  · subst here
    rw [List.getElem?_set_self (List.getElem?_eq_some_iff.mp found).1, found]
    exact congrArg some same
  · rw [List.getElem?_set_ne here]

/-- No move gives a slot another id. -/
theorem Pool.Effect.map_id_slots {p q : Pool} {events : List Pool.Event}
    (effect : Pool.Effect p q events) : q.slots.map Slot.id = p.slots.map Slot.id := by
  cases effect with
  | silent slots => rw [slots]
  | tornDown found slots =>
    rw [slots]
    exact map_id_set found rfl
  | refused _ _ slots => rw [slots]
  | began _ found accepted slots =>
    obtain ⟨_, _, rfl⟩ := Slot.begin?_eq_some_iff.mp accepted
    rw [slots]
    exact map_id_set found rfl
  | committed _ found _ slots =>
    rw [slots]
    exact map_id_set found rfl
  | overtaken _ _ _ slots => rw [slots]

theorem Pool.Leads.map_id_slots {engine : Engine} {p q : Pool} (leads : Pool.Leads engine p q) :
    q.slots.map Slot.id = p.slots.map Slot.id :=
  leads.induction (P := fun q => q.slots.map Slot.id = p.slots.map Slot.id)
    (fun _ _ _ effect same => effect.map_id_slots.trans same) rfl

/-- What stays of a diagram while it is on view. -/
structure Label where
  block : Nat
  source : String
  slot : String
  deriving DecidableEq

def Occurrence.label (o : Occurrence) : Label := ⟨o.block, o.source, o.slot.id.text⟩

namespace Viewport

variable {engine : Engine}

theorem startAll_leads {renderer : Renderer} (texts : List String) {i : Nat} {d : Desk}
    (orderly : (d.pool renderer).Orderly) (fits : i + texts.length ≤ d.slots.length) :
    Pool.Leads engine (d.pool renderer) ((startAll renderer i texts d).pool renderer) := by
  induction texts generalizing i d with
  | nil => exact Pool.Leads.refl _
  | cons text rest ih =>
    rw [List.length_cons] at fits
    have first : Pool.Leads engine (d.pool renderer) ((d.start renderer i text).pool renderer) :=
      Desk.start_leads text orderly (by omega)
    have length : (d.start renderer i text).slots.length = d.slots.length := first.length_slots
    exact first.trans (ih (first.orderly orderly) (by omega))

/-- The sources of the diagrams on view. -/
def texts (v : Viewport) : List String := v.occurrences.map Occurrence.source

/-- The desk after all diagrams have been submitted in order and everything has ended. -/
def drained (v : Viewport) (engine : Engine) : Desk :=
  (startAll v.renderer 0 v.texts v.desk).drain engine v.renderer

theorem map_id_drained (v : Viewport) (engine : Engine) :
    (v.drained engine).slots.map Slot.id = v.occurrences.map fun o => o.slot.id := by
  have orderly : (v.desk.pool v.renderer).Orderly := Pool.orderly_of_no_jobs rfl
  have started : Pool.Leads engine (v.desk.pool v.renderer)
      ((startAll v.renderer 0 v.texts v.desk).pool v.renderer) :=
    startAll_leads _ orderly (by simp [desk, texts])
  have ended : Pool.Proceeds engine _ ((v.drained engine).pool v.renderer) :=
    Desk.runSteps_proceeds none _ (started.orderly orderly)
  have same : _ = v.desk.slots.map Slot.id := (started.trans ended.leads).map_id_slots
  rw [desk, List.map_map] at same
  exact same

theorem map_label_zipWith {occurrences : List Occurrence} {slots : List Slot}
    (same : slots.map Slot.id = occurrences.map fun o => o.slot.id) :
    (occurrences.zipWith (fun o slot => { o with slot := slot }) slots).map Occurrence.label =
      occurrences.map Occurrence.label := by
  induction occurrences generalizing slots with
  | nil => rfl
  | cons o rest ih =>
    obtain ⟨slot, others, rfl, id, more⟩ := List.map_eq_cons_iff.mp same
    rw [List.zipWith_cons_cons, List.map_cons, List.map_cons, ih more]
    simp only [Occurrence.label, id]

theorem labels_render (v : Viewport) (engine : Engine) :
    (v.render engine).2.occurrences.map Occurrence.label = v.occurrences.map Occurrence.label :=
  map_label_zipWith (map_id_drained v engine)

end Viewport

end CatalogueViewer
