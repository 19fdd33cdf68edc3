import CatalogueViewer.Proofs.Diagram.Stability
import Mathlib.Data.List.DropRight

/-!
# Texts that go on

More lines take nothing from a text.  Its keyword stands in the first line, and a mark of structure
is still one when the text goes on, since no pattern of a feature asks for the end of the text.  So
a diagram stays one of its kind, with all its features: `prevalidate_append_line`.
-/

namespace CatalogueViewer

namespace Text

variable {more : List Char} {s e : Spot}

/-- The same place of a text that goes on. -/
def Spot.goOn (more : List Char) (s : Spot) : Spot := ⟨s.before, s.after ++ more⟩

theorem Spot.isWordEdge_goOn (apart : more.head?.any isWordChar = false) (s : Spot) :
    (s.goOn more).isWordEdge = s.isWordEdge := by
  obtain ⟨before, after⟩ := s
  cases after with
  | nil => simp [Spot.goOn, Spot.isWordEdge, apart]
  | cons c after => rfl

theorem Spot.goOn_mem_passing {p : Char → Bool} {before : Option Char} {text : List Char}
    (reached : e ∈ Spot.passing p before text) :
    e.goOn more ∈ Spot.passing p before (text ++ more) := by
  induction text generalizing before with
  | nil =>
    rw [List.mem_singleton.mp reached]
    cases more <;> exact List.mem_cons_self
  | cons c text ih =>
    rw [Spot.passing] at reached
    rw [List.cons_append, Spot.passing]
    rcases List.mem_cons.mp reached with rfl | further
    · exact List.mem_cons_self
    · refine List.mem_cons_of_mem _ ?_
      split at further
      · next passes =>
        rw [if_pos passes]
        exact ih further
      · cases further

theorem goOn_mem_spots {before : Option Char} {text : List Char} (member : s ∈ spots before text) :
    s.goOn more ∈ spots before (text ++ more) := by
  induction text generalizing before with
  | nil =>
    rw [List.mem_singleton.mp member]
    cases more <;> exact List.mem_cons_self
  | cons c text ih =>
    rcases List.mem_cons.mp member with rfl | later
    · exact List.mem_cons_self
    · exact List.mem_cons_of_mem _ (ih later)

namespace Pattern

/-- Some match may ask for the end of the text. -/
def asksForEnd : Pattern → Bool
  | textEnd => true
  | seq first second | alt first second => first.asksForEnd || second.asksForEnd
  | empty | one _ | many _ | wordEdge | lineStart => false

/-- A match is still one when the text goes on, unless its last word goes on with it. -/
theorem goOn_mem_ends {p : Pattern} (never : p.asksForEnd = false)
    (apart : more.head?.any isWordChar = false) (reached : e ∈ p.ends s) :
    e.goOn more ∈ p.ends (s.goOn more) := by
  induction p generalizing s e with
  | empty =>
    rw [List.mem_singleton.mp reached]
    exact List.mem_singleton_self _
  | one p =>
    obtain ⟨before, after⟩ := s
    cases after with
    | nil => cases reached
    | cons c rest =>
      obtain ⟨fits, rfl⟩ := mem_ends_one.mp reached
      exact mem_ends_one.mpr ⟨fits, rfl⟩
  | many p => exact Spot.goOn_mem_passing reached
  | seq first second ihFirst ihSecond =>
    obtain ⟨one, two⟩ := Bool.or_eq_false_iff.mp never
    obtain ⟨m, upTo, onward⟩ := mem_ends_seq.mp reached
    exact mem_ends_seq.mpr ⟨m.goOn more, ihFirst one upTo, ihSecond two onward⟩
  | alt first second ihFirst ihSecond =>
    obtain ⟨one, two⟩ := Bool.or_eq_false_iff.mp never
    rcases List.mem_append.mp reached with inFirst | inSecond
    · exact List.mem_append_left _ (ihFirst one inFirst)
    · exact List.mem_append_right _ (ihSecond two inSecond)
  | wordEdge =>
    obtain ⟨edge, rfl⟩ := mem_ends_wordEdge.mp reached
    exact mem_ends_wordEdge.mpr ⟨by rwa [Spot.isWordEdge_goOn apart], rfl⟩
  | lineStart =>
    obtain ⟨fresh, rfl⟩ := mem_ends_lineStart.mp reached
    exact mem_ends_lineStart.mpr ⟨fresh, rfl⟩
  | textEnd => cases never

theorem occursIn_append {p : Pattern} (never : p.asksForEnd = false)
    (apart : more.head?.any isWordChar = false) {text : List Char}
    (occurs : p.occursIn text = true) : p.occursIn (text ++ more) = true := by
  obtain ⟨s, member, starts⟩ := List.any_eq_true.mp occurs
  obtain ⟨e, reached⟩ := matchesAt_iff.mp starts
  exact List.any_eq_true.mpr
    ⟨s.goOn more, goOn_mem_spots member, matchesAt_iff.mpr ⟨_, goOn_mem_ends never apart reached⟩⟩

end Pattern

end Text

namespace Diagram

open Text Pattern

variable {kind : Kind} {text more : List Char}

/-! ### Features -/

theorem Feature.asksForEnd_pattern (f : Feature) : f.pattern.asksForEnd = false := by
  cases f <;> decide

theorem Feature.occursIn_append_line (f : Feature) (more : List Char)
    (occurs : f.pattern.occursIn text = true) :
    f.pattern.occursIn (text ++ '\n' :: more) = true :=
  occursIn_append f.asksForEnd_pattern rfl occurs

theorem Feature.ofText_sublist_append_line (text more : List Char) :
    (ofText text).Sublist (ofText (text ++ '\n' :: more)) :=
  List.monotone_filter_right all fun f => f.occursIn_append_line more

/-! ### The kind -/

theorem exists_firstLine (s : List Char) :
    ∃ line after, s = line ++ after ∧ EndsLine after := by
  rcases inLine_or_feed s with - | ⟨line, rest, -, split⟩
  · exact ⟨s, [], (List.append_nil s).symm, .inl rfl⟩
  · exact ⟨line, '\n' :: rest, split, .inr ⟨rest, rfl⟩⟩

theorem startsText_keyword_append_line (starts : kind.keyword.startsText text = true)
    (more : List Char) : kind.keyword.startsText (text ++ '\n' :: more) = true := by
  obtain ⟨line, after, rfl, ends⟩ := exists_firstLine text
  have goesOn : EndsLine (after ++ '\n' :: more) := by
    rcases ends with rfl | ⟨rest, rfl⟩
    · exact .inr ⟨more, rfl⟩
    · exact .inr ⟨rest ++ '\n' :: more, rfl⟩
  rw [List.append_assoc]
  exact startsText_keyword_append ends goesOn (fun _ => by simp) starts

theorem Kind.startsText_keyword_nil (kind : Kind) : kind.keyword.startsText [] = false := by
  cases kind <;> decide

theorem trimStart_trimStart (s : List Char) : trimStart (trimStart s) = trimStart s :=
  List.dropWhile_idempotent _ _

theorem Kind.detect?_trimStart (text : List Char) : detect? (trimStart text) = detect? text := by
  rw [detect?, trimStart_trimStart, detect?]

theorem Kind.detect?_append_line (found : detect? text = some kind) (more : List Char) :
    detect? (text ++ '\n' :: more) = some kind := by
  rw [← detect?_trimStart] at found
  have starts := (detect?_eq_some_iff (trimStart_trimStart text)).mp found
  have visible : trimStart text ≠ [] := by
    intro none
    rw [none, startsText_keyword_nil] at starts
    cases starts
  have trimmed : trimStart (text ++ '\n' :: more) = trimStart text ++ '\n' :: more :=
    trimStart_append visible _
  rw [← detect?_trimStart, trimmed]
  refine (detect?_eq_some_iff ?_).mpr (startsText_keyword_append_line starts more)
  rw [← trimmed, trimStart_trimStart]

/-- A diagram is one of its kind whatever lines follow it, and no feature of a text is lost. -/
theorem prevalidate_append_line (text more : List Char) :
    (∀ kind, prevalidate text = .ok kind → prevalidate (text ++ '\n' :: more) = .ok kind) ∧
    (Feature.ofText text).Sublist (Feature.ofText (text ++ '\n' :: more)) := by
  refine ⟨fun kind accepted => ?_, Feature.ofText_sublist_append_line text more⟩
  obtain ⟨long, found, structured⟩ := prevalidate_eq_ok_kind_iff.mp accepted
  obtain ⟨f, member, occurs⟩ := List.any_eq_true.mp structured
  refine prevalidate_eq_ok_kind_iff.mpr ⟨?_, Kind.detect?_append_line found more, ?_⟩
  · rw [List.length_append]
    omega
  · exact List.any_eq_true.mpr ⟨f, member, f.occursIn_append_line more occurs⟩

/-- A line that starts like another kind of diagram, after a word that ends with the text. -/
theorem prevalidate_append_line_states :
    prevalidate "stateDiagram-v2\nstate Idle".toList = .ok .states ∧
    prevalidate ("stateDiagram-v2\nstate Idle".toList ++ '\n' :: "pie title State".toList) =
      .ok .states := by
  have accepted : prevalidate "stateDiagram-v2\nstate Idle".toList = .ok .states := by
    decide +kernel
  exact ⟨accepted, (prevalidate_append_line _ "pie title State".toList).1 _ accepted⟩

end Diagram

end CatalogueViewer
