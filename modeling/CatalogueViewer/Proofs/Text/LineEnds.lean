import CatalogueViewer.Proofs.Text.Unifying
import CatalogueViewer.Text.Pattern

/-!
# Patterns and line ends

A text may end its lines with a line feed or with a carriage return and a line feed.  Most patterns
take no notice: `occursIn_unifyBreaks`.  Which of them do is computed from the pattern.
-/

namespace CatalogueViewer.Text

namespace Spot

/-- The place lies between a carriage return and its line feed. -/
def isInside (s : Spot) : Bool := s.before == some '\r' && s.after.head? == some '\n'

/-- The place in the text with unified line ends. -/
def unified (s : Spot) : Spot := ⟨s.before, unifyBreaks s.after⟩

theorem isInside_iff {s : Spot} :
    s.isInside = true ↔ s.before = some '\r' ∧ ∃ r, s.after = '\n' :: r := by
  rw [isInside, Bool.and_eq_true, beq_iff_eq, beq_iff_eq, List.head?_eq_some_iff]

theorem isInside_cons {c : Char} {s : List Char} (single : ¬(c = '\r' ∧ s.head? = some '\n')) :
    isInside ⟨some c, s⟩ = false := by
  simpa [isInside] using single

theorem isInside_of_before {c : Char} (other : c ≠ '\r') (s : List Char) :
    isInside ⟨some c, s⟩ = false := isInside_cons fun paired => other paired.1

/-- The places outside of line ends, in the text with unified line ends. -/
def kept (spots : List Spot) : List Spot := (spots.filter (!·.isInside)).map unified

theorem mem_kept {xs : List Spot} {e : Spot} :
    e ∈ kept xs ↔ ∃ s ∈ xs, s.isInside = false ∧ s.unified = e := by
  simp [kept, and_assoc]

theorem kept_cons_inside {s : Spot} (inside : s.isInside = true) (rest : List Spot) :
    kept (s :: rest) = kept rest := by
  simp [kept, inside]

theorem kept_cons_outside {s : Spot} (outside : s.isInside = false) (rest : List Spot) :
    kept (s :: rest) = s.unified :: kept rest := by
  simp [kept, outside]

theorem kept_append (xs ys : List Spot) : kept (xs ++ ys) = kept xs ++ kept ys := by
  simp [kept]

end Spot

open Spot

theorem spots_unifyBreaks (before : Option Char) (s : List Char)
    (outside : isInside ⟨before, s⟩ = false) :
    spots before (unifyBreaks s) = kept (spots before s) := by
  match s with
  | [] => rw [spots, kept_cons_outside outside]; rfl
  | c :: s =>
    rcases return_or_single c s with ⟨r, rfl, rfl⟩ | single
    · have later := spots_unifyBreaks (some '\n') r (isInside_of_before (by decide) r)
      rw [spots, spots, kept_cons_outside outside, kept_cons_inside rfl, ← later]
      rfl
    · have later := spots_unifyBreaks (some c) s (isInside_cons single)
      rw [spots, kept_cons_outside outside, ← later, unified, unifyBreaks_cons single, spots]

namespace Pattern

/-! ### What patterns do inside of line ends -/

/-- No match starts between a carriage return and its line feed. -/
def isOutside : Pattern → Bool
  | empty | many _ => false
  | one p => !p '\n'
  | seq first _ => first.isOutside
  | alt first second => first.isOutside && second.isOutside
  | wordEdge | lineStart | textEnd => true

/-- No match from outside a line end ends inside of one. -/
def leavesWhole : Pattern → Bool
  | one p | many p => !p '\r'
  | seq first second => second.leavesWhole && (first.leavesWhole || second.isOutside)
  | alt first second => first.leavesWhole && second.leavesWhole
  | empty | wordEdge | lineStart | textEnd => true

/-- The two patterns together pass over line ends, of one character or of two, or over none. -/
def spans : Pattern → Pattern → Bool
  | one p, many q => p '\r' && p '\n' && q '\r' && q '\n' || !p '\n' && !q '\n'
  | _, _ => false

/-- Line ends of one and of two characters are the same to the pattern. -/
def ignoresReturns : Pattern → Bool
  | one p => !p '\r' && !p '\n'
  | many p => p '\r' || !p '\n'
  | seq first second =>
    spans first second || first.ignoresReturns && second.ignoresReturns &&
      (first.leavesWhole || second.isOutside)
  | alt first second => first.ignoresReturns && second.ignoresReturns
  | empty | wordEdge | lineStart | textEnd => true

theorem ends_of_isOutside {p : Pattern} (outside : p.isOutside = true) {s : Spot}
    (inside : s.isInside = true) : p.ends s = [] := by
  obtain ⟨before, r, after⟩ := isInside_iff.mp inside
  induction p with
  | empty => cases outside
  | one p =>
    have never : p '\n' = false := by simpa [isOutside] using outside
    rw [ends, after]
    exact if_neg (by simp [never])
  | many p => cases outside
  | seq first second ihFirst ihSecond => rw [ends, ihFirst outside, List.flatMap_nil]
  | alt first second ihFirst ihSecond =>
    obtain ⟨one, two⟩ := Bool.and_eq_true_iff.mp outside
    rw [ends, ihFirst one, ihSecond two, List.append_nil]
  | wordEdge =>
    rw [ends, isWordEdge, before, after]
    rfl
  | lineStart =>
    rw [ends, isLineStart, before]
    rfl
  | textEnd =>
    rw [ends, after]
    rfl

theorem mem_passing {p : Char → Bool} {before : Option Char} {s : List Char} {e : Spot}
    (member : e ∈ passing p before s) :
    e = ⟨before, s⟩ ∨ ∃ c, p c = true ∧ e.before = some c := by
  induction s generalizing before with
  | nil => exact .inl (List.mem_singleton.mp member)
  | cons c s ih =>
    rw [passing] at member
    rcases List.mem_cons.mp member with here | further
    · exact .inl here
    · split at further
      · next passes =>
        rcases ih further with next | later
        · exact .inr ⟨c, passes, by rw [next]⟩
        · exact .inr later
      · cases further

theorem outside_of_leavesWhole {p : Pattern} (whole : p.leavesWhole = true) {s e : Spot}
    (outside : s.isInside = false) (member : e ∈ p.ends s) : e.isInside = false := by
  induction p generalizing s e with
  | empty => rwa [List.mem_singleton.mp member]
  | one p =>
    have never : p '\r' = false := by simpa [leavesWhole] using whole
    rw [ends] at member
    split at member
    · cases member
    · next c rest after =>
      split at member
      · next takes =>
        rw [List.mem_singleton.mp member]
        refine isInside_of_before (fun same => ?_) rest
        rw [same, never] at takes
        cases takes
      · cases member
  | many p =>
    have never : p '\r' = false := by simpa [leavesWhole] using whole
    rcases mem_passing member with here | ⟨c, passes, before⟩
    · rwa [here]
    · rw [Bool.eq_false_iff]
      intro inside
      have same := (isInside_iff.mp inside).1
      rw [before, Option.some.injEq] at same
      rw [same, never] at passes
      cases passes
  | seq first second ihFirst ihSecond =>
    obtain ⟨last, between⟩ := Bool.and_eq_true_iff.mp whole
    obtain ⟨m, reached, further⟩ := List.mem_flatMap.mp member
    have midway : m.isInside = false := by
      rcases Bool.or_eq_true_iff.mp between with kept | barred
      · exact ihFirst kept outside reached
      · rw [Bool.eq_false_iff]
        intro inside
        rw [ends_of_isOutside barred inside] at further
        cases further
    exact ihSecond last midway further
  | alt first second ihFirst ihSecond =>
    obtain ⟨one, two⟩ := Bool.and_eq_true_iff.mp whole
    rcases List.mem_append.mp member with inFirst | inSecond
    · exact ihFirst one outside inFirst
    · exact ihSecond two outside inSecond
  | wordEdge | lineStart | textEnd =>
    rw [ends] at member
    split at member
    · rwa [List.mem_singleton.mp member]
    · cases member

/-! ### What patterns do with unified line ends -/

theorem passing_unifyBreaks {p : Char → Bool} (both : (p '\r' || !p '\n') = true)
    (before : Option Char) (s : List Char) (outside : isInside ⟨before, s⟩ = false) :
    passing p before (unifyBreaks s) = kept (passing p before s) := by
  match s with
  | [] => rw [passing, kept_cons_outside outside]; rfl
  | c :: s =>
    rcases return_or_single c s with ⟨r, rfl, rfl⟩ | single
    · have later := passing_unifyBreaks both (some '\n') r (isInside_of_before (by decide) r)
      rw [passing, kept_cons_outside outside, unified, unifyBreaks, passing]
      congr 1
      cases feed : p '\n' with
      | false =>
        cases p '\r' with
        | false => rfl
        | true => simp [passing, feed, kept, isInside]
      | true =>
        have carriage : p '\r' = true := by simpa [feed] using both
        rw [if_pos rfl, if_pos carriage, passing, kept_cons_inside rfl, if_pos feed, later]
    · have later := passing_unifyBreaks both (some c) s (isInside_cons single)
      rw [passing, kept_cons_outside outside, unified, unifyBreaks_cons single, passing]
      congr 1
      split
      · exact later
      · rfl

theorem ends_unified_of_spans {p q : Pattern} (spanning : spans p q = true) {s : Spot}
    (outside : s.isInside = false) : (seq p q).ends s.unified = kept ((seq p q).ends s) := by
  cases p with
  | one p =>
    cases q with
    | many q =>
      simp only [spans, Bool.or_eq_true, Bool.and_eq_true, Bool.not_eq_true'] at spanning
      have both : (q '\r' || !q '\n') = true := by
        rcases spanning with ⟨⟨-, manyReturn⟩, -⟩ | ⟨-, noFeed⟩
        · rw [manyReturn, Bool.true_or]
        · rw [noFeed, Bool.not_false, Bool.or_true]
      obtain ⟨before, after⟩ := s
      rw [unified]
      match after with
      | [] => rfl
      | c :: s =>
        rcases return_or_single c s with ⟨r, rfl, rfl⟩ | single
        · have later := passing_unifyBreaks both (some '\n') r (isInside_of_before (by decide) r)
          rcases spanning with ⟨⟨⟨oneReturn, oneFeed⟩, -⟩, manyFeed⟩ | ⟨oneFeed, manyFeed⟩
          · simp only [ends, unifyBreaks, oneReturn, oneFeed, if_true, List.flatMap_singleton,
              passing, manyFeed]
            rw [kept_cons_inside rfl, later]
          · cases oneReturn : p '\r' <;>
              simp [ends, unifyBreaks, oneReturn, oneFeed, passing, manyFeed, kept, isInside]
        · have later := passing_unifyBreaks both (some c) s (isInside_cons single)
          simp only [ends, unifyBreaks_cons single]
          split
          · simpa using later
          · rfl
    | _ => cases spanning
  | _ => cases spanning

theorem kept_flatMap {f g : Spot → List Spot} {xs : List Spot}
    (outside : ∀ x ∈ xs, x.isInside = false → g x.unified = kept (f x))
    (inside : ∀ x ∈ xs, x.isInside = true → f x = []) :
    (kept xs).flatMap g = kept (xs.flatMap f) := by
  induction xs with
  | nil => rfl
  | cons x xs ih =>
    have later := ih (fun y member => outside y (List.mem_cons_of_mem _ member))
      (fun y member => inside y (List.mem_cons_of_mem _ member))
    rw [List.flatMap_cons, kept_append]
    cases place : x.isInside with
    | true =>
      rw [kept_cons_inside place, later, inside x List.mem_cons_self place]
      rfl
    | false =>
      rw [kept_cons_outside place, List.flatMap_cons, later, outside x List.mem_cons_self place]

theorem isWordEdge_unified (s : Spot) : s.unified.isWordEdge = s.isWordEdge := by
  obtain ⟨before, after⟩ := s
  rw [isWordEdge, isWordEdge, unified]
  match after with
  | [] => rfl
  | c :: s =>
    rcases return_or_single c s with ⟨r, rfl, rfl⟩ | single
    · rfl
    · rw [unifyBreaks_cons single]
      rfl

theorem isEmpty_unified (s : Spot) : s.unified.after.isEmpty = s.after.isEmpty := by
  rw [Bool.eq_iff_iff, List.isEmpty_iff, List.isEmpty_iff]
  exact unifyBreaks_eq_nil_iff s.after

theorem ends_one_unified {p : Char → Bool} (ignores : (one p).ignoresReturns = true) (s : Spot) :
    (one p).ends s.unified = kept ((one p).ends s) := by
  have never : p '\r' = false ∧ p '\n' = false := by simpa [ignoresReturns] using ignores
  obtain ⟨before, after⟩ := s
  rw [unified]
  match after with
  | [] => rfl
  | c :: s =>
    rcases return_or_single c s with ⟨r, rfl, rfl⟩ | single
    · simp [ends, unifyBreaks, never.1, never.2, kept]
    · simp only [ends, unifyBreaks_cons single]
      split
      · rw [kept_cons_outside (isInside_cons single)]
        rfl
      · rfl

theorem ends_unified {p : Pattern} (ignores : p.ignoresReturns = true) {s : Spot}
    (outside : s.isInside = false) : p.ends s.unified = kept (p.ends s) := by
  have here : [s.unified] = kept [s] := (kept_cons_outside outside []).symm
  induction p generalizing s with
  | empty => exact here
  | one p => exact ends_one_unified ignores s
  | many p => exact passing_unifyBreaks ignores s.before s.after outside
  | seq first second ihFirst ihSecond =>
    rcases Bool.or_eq_true_iff.mp ignores with spanning | generic
    · exact ends_unified_of_spans spanning outside
    · obtain ⟨both, between⟩ := Bool.and_eq_true_iff.mp generic
      obtain ⟨one, two⟩ := Bool.and_eq_true_iff.mp both
      rw [ends, ends, ihFirst one outside here]
      -- Nothing is lost with the places inside of line ends: no match goes on from there.
      apply kept_flatMap
      · intro m _ midway
        exact ihSecond two midway (kept_cons_outside midway []).symm
      · intro m reached inside
        rcases Bool.or_eq_true_iff.mp between with whole | barred
        · rw [outside_of_leavesWhole whole outside reached] at inside
          cases inside
        · exact ends_of_isOutside barred inside
  | alt first second ihFirst ihSecond =>
    obtain ⟨one, two⟩ := Bool.and_eq_true_iff.mp ignores
    rw [ends, ends, ihFirst one outside here, ihSecond two outside here, kept_append]
  | wordEdge =>
    rw [ends, ends, isWordEdge_unified]
    split
    · exact here
    · rfl
  | lineStart =>
    rw [ends, ends]
    split
    · next starts => rw [if_pos (show s.isLineStart = true from starts), here]
    · next inLine => rw [if_neg (show ¬ s.isLineStart = true from inLine)]; rfl
  | textEnd =>
    rw [ends, ends, isEmpty_unified]
    split
    · exact here
    · rfl

/-! ### Matches -/

theorem matchesAt_unified {p : Pattern} (ignores : p.ignoresReturns = true)
    (whole : p.leavesWhole = true) {s : Spot} (outside : s.isInside = false) :
    p.matchesAt s.unified = p.matchesAt s := by
  have all : (p.ends s).filter (!·.isInside) = p.ends s := by
    rw [List.filter_eq_self]
    intro e member
    simp [outside_of_leavesWhole whole outside member]
  rw [matchesAt, matchesAt, ends_unified ignores outside, kept, all, List.isEmpty_map]

theorem startsText_unifyBreaks {p : Pattern} (ignores : p.ignoresReturns = true)
    (whole : p.leavesWhole = true) (text : List Char) :
    p.startsText (unifyBreaks text) = p.startsText text :=
  matchesAt_unified (s := .start text) ignores whole rfl

theorem occursIn_unifyBreaks {p : Pattern} (ignores : p.ignoresReturns = true)
    (whole : p.leavesWhole = true) (barred : p.isOutside = true) (text : List Char) :
    p.occursIn (unifyBreaks text) = p.occursIn text := by
  rw [occursIn, occursIn, spots_unifyBreaks none text rfl, kept, List.any_map, List.any_filter]
  congr 1
  funext s
  cases place : s.isInside with
  | true => simp [matchesAt, ends_of_isOutside barred place]
  | false => exact matchesAt_unified ignores whole place

end Pattern

end CatalogueViewer.Text
