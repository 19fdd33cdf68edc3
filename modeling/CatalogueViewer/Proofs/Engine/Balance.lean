import CatalogueViewer.Engine.Preview
import Mathlib.Algebra.Group.Nat.Even

/-!
# Balanced lines

The balance check reads each line with a stack of open brackets and a flag for quotes.  It lets a
line pass exactly if its quotes come in pairs and its brackets outside of quotes are well nested.
-/

namespace CatalogueViewer.Preview

open Text

/-! ### Well-nested words -/

/-- Words of brackets in which every bracket has its partner. -/
inductive WellNested : List Char → Prop
  | nil : WellNested []
  | wrap {o c : Char} {word : List Char} :
      opening? c = some o → WellNested word → WellNested (o :: (word ++ [c]))
  | append {word more : List Char} :
      WellNested word → WellNested more → WellNested (word ++ more)

def isBracket (c : Char) : Bool := isOpening c || (opening? c).isSome

/-- The text outside of quotes; `quoted` tells whether it starts inside. -/
def unquoted (quoted : Bool) : List Char → List Char
  | [] => []
  | c :: rest =>
    if c = '"' then unquoted (!quoted) rest
    else if quoted then unquoted quoted rest
    else c :: unquoted quoted rest

/-- The quotes of a line come in pairs, and its brackets outside of them, if they count, are well
nested. -/
def IsBalanced (brackets : Bool) (line : List Char) : Prop :=
  Even (line.count '"') ∧ (brackets = true → WellNested ((unquoted false line).filter isBracket))

/-- Comments may hold what they like. -/
def IsInOrder (brackets : Bool) (line : List Char) : Prop :=
  isComment line = false → IsBalanced brackets line

section

variable {o c p : Char} {word more : List Char} {opened : List Char}

theorem isOpening_of_opening? (pair : opening? c = some o) : isOpening o = true := by
  unfold opening? at pair
  split at pair <;> cases pair <;> rfl

theorem opening?_of_isOpening (opens : isOpening o = true) : opening? o = none := by
  have either : (o = '(' ∨ o = '[') ∨ o = '{' := by simpa [isOpening] using opens
  rcases either with (rfl | rfl) | rfl <;> rfl

theorem isOpening_of_closing (pair : opening? c = some o) : isOpening c = false := by
  by_contra opens
  rw [opening?_of_isOpening (by simpa using opens)] at pair
  cases pair

/-- A word that is not empty starts with a bracket and goes on after its partner. -/
theorem WellNested.first (nested : WellNested word) :
    word = [] ∨ ∃ o inner c rest, word = o :: (inner ++ c :: rest) ∧ opening? c = some o ∧
      WellNested inner ∧ WellNested rest := by
  induction nested with
  | nil => exact .inl rfl
  | @wrap o c word pair inner _ => exact .inr ⟨o, word, c, [], rfl, pair, inner, .nil⟩
  | @append word more _ second ih ih' =>
    rcases ih with rfl | ⟨o, inner, c, rest, rfl, pair, nested, after⟩
    · exact ih'
    · exact .inr ⟨o, inner, c, rest ++ more, by simp, pair, nested, after.append second⟩

theorem WellNested.isOpening_head (nested : WellNested (c :: word)) : isOpening c = true := by
  obtain none | ⟨o, inner, d, rest, split, pair, -⟩ := nested.first
  · cases none
  · cases split
    exact isOpening_of_opening? pair

/-! ### Words after open brackets -/

/-- The word closes the open brackets, the latest first, and leaves none of its own open. -/
def Closes : (opened word : List Char) → Prop
  | [], word => WellNested word
  | o :: opened, word => ∃ inner c rest, word = inner ++ c :: rest ∧ WellNested inner ∧
      opening? c = some o ∧ Closes opened rest

theorem Closes.after (nested : WellNested word) (closes : Closes opened more) :
    Closes opened (word ++ more) := by
  cases opened with
  | nil => exact nested.append closes
  | cons o opened =>
    obtain ⟨inner, c, rest, rfl, nested', pair, closes⟩ := closes
    exact ⟨word ++ inner, c, rest, (List.append_assoc _ _ _).symm, nested.append nested', pair, closes⟩

theorem closes_nil_iff : Closes opened [] ↔ opened = [] := by
  cases opened with
  | nil => exact iff_of_true .nil rfl
  | cons o opened =>
    refine iff_of_false ?_ (List.cons_ne_nil o opened)
    rintro ⟨inner, c, rest, split, -⟩
    simp at split

theorem closes_opening_iff (opens : isOpening o = true) :
    Closes opened (o :: word) ↔ Closes (o :: opened) word := by
  constructor
  · intro closes
    cases opened with
    | nil =>
      obtain none | ⟨p, inner, c, rest, split, pair, nested, after⟩ := WellNested.first closes
      · cases none
      · cases split
        exact ⟨inner, c, rest, rfl, nested, pair, after⟩
    | cons p opened =>
      obtain ⟨inner, c, rest, split, nested, pair, closes⟩ := closes
      obtain rfl | ⟨q, inner', c', rest', rfl, pair', nested', after⟩ := nested.first
      · -- The bracket would close the one before it.
        cases split
        rw [opening?_of_isOpening opens] at pair
        cases pair
      · cases split
        exact ⟨inner', c', rest' ++ c :: rest, by simp, nested', pair', rest', c, rest, rfl, after,
          pair, closes⟩
  · rintro ⟨inner, c, rest, rfl, nested, pair, closes⟩
    have wrapped : WellNested (o :: (inner ++ [c])) := .wrap pair nested
    simpa using closes.after wrapped

theorem not_closes_of_closing (pair : opening? c = some o) : ¬Closes [] (c :: word) := by
  intro closes
  have opens := WellNested.isOpening_head closes
  rw [isOpening_of_closing pair] at opens
  cases opens

theorem closes_closing_iff (pair : opening? c = some o) :
    Closes (p :: opened) (c :: word) ↔ o = p ∧ Closes opened word := by
  constructor
  · rintro ⟨inner, d, rest, split, nested, pair', closes⟩
    cases inner with
    | nil =>
      cases split
      rw [pair] at pair'
      exact ⟨Option.some.inj pair', closes⟩
    | cons e inner =>
      cases split
      have opens := nested.isOpening_head
      rw [isOpening_of_closing pair] at opens
      cases opens
  · rintro ⟨rfl, closes⟩
    exact ⟨[], c, word, rfl, .nil, pair, closes⟩

end

/-! ### One line -/

/-- The brackets that count in the rest of a line. -/
def bracketsLeft (brackets quoted : Bool) (rest : List Char) : List Char :=
  if brackets then (unquoted quoted rest).filter isBracket else []

theorem bracketsLeft_quote (brackets quoted : Bool) (line : List Char) :
    bracketsLeft brackets quoted ('"' :: line) = bracketsLeft brackets (!quoted) line := by
  simp [bracketsLeft, unquoted]

theorem bracketsLeft_skipped {brackets quoted : Bool} {c : Char} (visible : c ≠ '"')
    (skipped : (quoted || !brackets) = true) (line : List Char) :
    bracketsLeft brackets quoted (c :: line) = bracketsLeft brackets quoted line := by
  cases brackets with
  | false => simp [bracketsLeft]
  | true =>
    obtain rfl : quoted = true := by simpa using skipped
    simp [bracketsLeft, unquoted, visible]

theorem bracketsLeft_cons {c : Char} (visible : c ≠ '"') (line : List Char) :
    bracketsLeft true false (c :: line) =
      if isBracket c then c :: bracketsLeft true false line else bracketsLeft true false line := by
  simp [bracketsLeft, unquoted, visible, List.filter_cons]

theorem even_count_quote (quoted : Bool) (line : List Char) :
    Even (('"' :: line).count '"' + quoted.toNat) ↔ Even (line.count '"' + (!quoted).toNat) := by
  rw [List.count_cons_self]
  cases quoted <;> simp [Nat.even_add_one]

/-- A line is read to its end exactly if it closes what is open: brackets, and the quote. -/
theorem imbalance?_eq_none_iff (brackets : Bool) (opened : List Char) (quoted : Bool)
    (line : List Char) :
    imbalance? brackets opened quoted line = none ↔
      Even (line.count '"' + quoted.toNat) ∧ Closes opened (bracketsLeft brackets quoted line) := by
  induction line generalizing opened quoted with
  | nil =>
    have none : bracketsLeft brackets quoted [] = [] := by cases brackets <;> rfl
    rw [none, closes_nil_iff]
    cases quoted with
    | true => simp [imbalance?]
    | false => cases opened <;> simp [imbalance?]
  | cons c line ih =>
    unfold imbalance?
    by_cases quote : c = '"'
    · subst quote
      rw [if_pos rfl, ih, even_count_quote, bracketsLeft_quote]
    · rw [if_neg quote, List.count_cons_of_ne quote]
      by_cases skipped : (quoted || !brackets) = true
      · rw [if_pos skipped, ih, bracketsLeft_skipped quote skipped]
      · obtain ⟨rfl, rfl⟩ : quoted = false ∧ brackets = true := by simpa using skipped
        rw [if_neg skipped, bracketsLeft_cons quote]
        cases opens : isOpening c with
        | true => simp [ih, isBracket, opens, closes_opening_iff opens]
        | false =>
          cases pair : opening? c with
          | none => simp [ih, isBracket, opens, pair]
          | some o =>
            cases opened with
            | nil => simp [isBracket, pair, not_closes_of_closing pair]
            | cons p opened =>
              by_cases same : o = p
              · simp [ih, isBracket, pair, same, closes_closing_iff pair]
              · simp [isBracket, pair, same, closes_closing_iff pair]

theorem lineImbalance?_eq_none_iff {brackets : Bool} {line : List Char} :
    lineImbalance? brackets line = none ↔ IsInOrder brackets line := by
  have word : Closes [] (bracketsLeft brackets false line) ↔
      (brackets = true → WellNested ((unquoted false line).filter isBracket)) := by
    cases brackets with
    | true => simp [bracketsLeft, Closes]
    | false => simpa [bracketsLeft, Closes] using WellNested.nil
  unfold lineImbalance? IsInOrder IsBalanced
  cases comment : isComment line with
  | true => simp
  | false => simp [imbalance?_eq_none_iff, word]

/-! ### All lines -/

theorem firstImbalance?_eq_none_iff {brackets : Bool} {n : Nat} {ls : List (List Char)} :
    firstImbalance? brackets n ls = none ↔ ∀ line ∈ ls, IsInOrder brackets line := by
  induction ls generalizing n with
  | nil => simp [firstImbalance?]
  | cons line rest ih =>
    rw [firstImbalance?, List.forall_mem_cons, ← lineImbalance?_eq_none_iff]
    cases lineImbalance? brackets line with
    | none => simp [ih]
    | some fault => simp

theorem firstImbalance?_eq_some {brackets : Bool} {n k : Nat} {fault : Imbalance}
    {ls : List (List Char)} (found : firstImbalance? brackets n ls = some (k, fault)) :
    ∃ before line after, ls = before ++ line :: after ∧ k = n + before.length ∧
      (∀ earlier ∈ before, IsInOrder brackets earlier) ∧ ¬IsInOrder brackets line := by
  induction ls generalizing n with
  | nil => cases found
  | cons line rest ih =>
    rw [firstImbalance?] at found
    cases here : lineImbalance? brackets line with
    | some fault' =>
      rw [here] at found
      cases found
      refine ⟨[], line, rest, rfl, rfl, by simp, ?_⟩
      rw [← lineImbalance?_eq_none_iff, here]
      exact Option.some_ne_none _
    | none =>
      rw [here] at found
      obtain ⟨before, bad, after, rfl, rfl, earlier, offends⟩ := ih found
      refine ⟨line :: before, bad, after, rfl, by rw [List.length_cons]; omega, ?_, offends⟩
      exact List.forall_mem_cons.mpr ⟨lineImbalance?_eq_none_iff.mp here, earlier⟩

/-- The check passes the sources all of whose lines are in order, and else names the first line
that is not. -/
theorem checkBalance_judges (source : List Char) (brackets : Bool) :
    ((checkBalance source brackets).mapError balanceError = .ok () ↔
      ∀ line ∈ lines source, IsInOrder brackets line) ∧
    ∀ error, (checkBalance source brackets).mapError balanceError = .error error →
      ∃ before line after, lines source = before ++ line :: after ∧
        (∀ earlier ∈ before, IsInOrder brackets earlier) ∧ ¬IsInOrder brackets line ∧
        ∃ fault : Imbalance, error = .badSource ("Parse error on line " ++
          toString (before.length + 1) ++ ": " ++ String.ofList fault.describe) := by
  unfold checkBalance
  cases found : firstImbalance? brackets 1 (lines source) with
  | none =>
    refine ⟨iff_of_true rfl (firstImbalance?_eq_none_iff.mp found), ?_⟩
    intro error failed
    cases failed
  | some report =>
    obtain ⟨number, fault⟩ := report
    obtain ⟨before, line, after, split, rfl, earlier, offends⟩ := firstImbalance?_eq_some found
    constructor
    · refine iff_of_false (fun passed => by cases passed) fun inOrder => offends (inOrder line ?_)
      rw [split]
      exact List.mem_append_right before List.mem_cons_self
    · intro error failed
      cases failed
      refine ⟨before, line, after, split, earlier, offends, fault, ?_⟩
      rw [balanceError, Nat.add_comm]

/-- A comment with a quote of its own, brackets in quotes, and a wrong bracket in the fourth line. -/
def crossedSource : List Char :=
  "flowchart LR\n %% open \" [\nA[\"(x]\"] --> B{y}\nC(D] --> E\nF\"".toList

theorem checkBalance_judges_crossed :
    (checkBalance crossedSource true).mapError balanceError =
      .error (.badSource "Parse error on line 4: unexpected ']'") ∧
    ∃ before line after, lines crossedSource = before ++ line :: after ∧
      (∀ earlier ∈ before, IsInOrder true earlier) ∧ ¬IsInOrder true line ∧
      ∃ fault : Imbalance, EngineError.badSource "Parse error on line 4: unexpected ']'" =
        .badSource ("Parse error on line " ++ toString (before.length + 1) ++ ": " ++
          String.ofList fault.describe) :=
  ⟨rfl, (checkBalance_judges crossedSource true).2 _ rfl⟩

end CatalogueViewer.Preview
