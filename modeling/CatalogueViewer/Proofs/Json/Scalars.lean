import CatalogueViewer.Json.Printer
import CatalogueViewer.Json.Reader
import CatalogueViewer.Proofs.Text.Numbered
import Mathlib.Data.List.TakeDrop

/-!
# Reading strings and numbers back

A string is read as it was before it was written, and so is a whole number of 64 bits:
`string_printString` and `number_toDigits`.
-/

namespace CatalogueViewer.Json

/-! ### Strings -/

theorem hexDigit?_hexDigit : ∀ n < 16, hexDigit? (hexDigit n) = some n := by decide

theorem codePoint_control {c : Char} (control : c.toNat < 0x20) (s : List Char) :
    codePoint ('0' :: '0' :: hexDigit (c.toNat / 16) :: hexDigit c.toNat :: s) = .ok (c, s) := by
  have high := hexDigit?_hexDigit (c.toNat / 16) (by omega)
  have low : hexDigit? (hexDigit c.toNat) = some (c.toNat % 16) := by
    have digit := hexDigit?_hexDigit (c.toNat % 16) (Nat.mod_lt _ (by decide))
    rwa [hexDigit, Nat.mod_mod] at digit
  have zero : hexDigit? '0' = some 0 := by decide
  have four : fourDigits ('0' :: '0' :: hexDigit (c.toNat / 16) :: hexDigit c.toNat :: s) =
      .ok (c.toNat, s) := by
    rw [fourDigits, zero, high, low]
    simp only [Except.ok.injEq, Prod.mk.injEq, and_true]
    omega
  have notLow : isLowSurrogate c.toNat = false := by simp [isLowSurrogate]; omega
  have notHigh : isHighSurrogate c.toNat = false := by simp [isHighSurrogate]; omega
  rw [codePoint, four]
  simp [bind, Except.bind, notLow, notHigh]

theorem escape_control {c : Char} (control : c.toNat < 0x20) (s : List Char) :
    escape codePoint ('u' :: '0' :: '0' :: hexDigit (c.toNat / 16) :: hexDigit c.toNat :: s) =
      .ok (c, s) := codePoint_control control s

theorem stringTail_escape {fuel : Nat} {s mid rest cs : List Char} {c : Char}
    (escaped : escape codePoint s = .ok (c, mid))
    (tail : stringTail codePoint fuel mid = .ok (cs, rest)) :
    stringTail codePoint (fuel + 1) ('\\' :: s) = .ok (c :: cs, rest) := by
  simp [stringTail, escaped, tail, bind, Except.bind]

theorem stringTail_plain {fuel : Nat} {s rest cs : List Char} {c : Char} (quote : c ≠ '"')
    (backslash : c ≠ '\\') (visible : ¬ c.toNat < 0x20)
    (tail : stringTail codePoint fuel s = .ok (cs, rest)) :
    stringTail codePoint (fuel + 1) (c :: s) = .ok (c :: cs, rest) := by
  rw [stringTail, if_neg visible, tail]
  · rfl
  · exact quote
  · exact backslash

theorem stringTail_printChar {fuel : Nat} {s rest cs : List Char}
    (tail : stringTail codePoint fuel s = .ok (cs, rest)) (c : Char) :
    stringTail codePoint (fuel + 1) (printChar c ++ s) = .ok (c :: cs, rest) := by
  fun_cases printChar c with
  | case8 _ quote backslash b f n r t control =>
    exact stringTail_escape (escape_control control s) tail
  | case9 _ quote backslash b f n r t visible =>
    exact stringTail_plain quote backslash visible tail
  | _ => exact stringTail_escape rfl tail

theorem printChar_ne_nil (c : Char) : printChar c ≠ [] := by
  fun_cases printChar c <;> exact List.cons_ne_nil _ _

theorem length_le_flatMap_printChar (cs : List Char) :
    cs.length ≤ (cs.flatMap printChar).length := by
  induction cs with
  | nil => exact Nat.le_refl 0
  | cons c cs ih =>
    have some := List.length_pos_iff.mpr (printChar_ne_nil c)
    rw [List.flatMap_cons, List.length_append, List.length_cons]
    omega

theorem stringTail_flatMap_printChar (cs : List Char) {fuel : Nat} (enough : cs.length < fuel)
    (rest : List Char) :
    stringTail codePoint fuel (cs.flatMap printChar ++ '"' :: rest) = .ok (cs, rest) := by
  induction cs generalizing fuel with
  | nil =>
    obtain ⟨fuel, rfl⟩ := Nat.exists_eq_succ_of_ne_zero (Nat.ne_of_gt enough)
    rfl
  | cons c cs ih =>
    obtain ⟨fuel, rfl⟩ := Nat.exists_eq_succ_of_ne_zero (Nat.ne_zero_of_lt enough)
    rw [List.flatMap_cons, List.append_assoc]
    exact stringTail_printChar (ih (Nat.lt_of_succ_lt_succ enough)) c

/-- A string is read as it was before it was written. -/
theorem string_flatMap_printChar (text : String) (rest : List Char) :
    string (text.toList.flatMap printChar ++ '"' :: rest) = .ok (text, rest) := by
  have enough : text.toList.length <
      (text.toList.flatMap printChar ++ '"' :: rest).length + 1 := by
    have short := length_le_flatMap_printChar text.toList
    rw [List.length_append]
    omega
  rw [string, stringTail_flatMap_printChar _ enough]
  simp [bind, Except.bind]

/-! ### Whole numbers -/

/-- The text does not go on with a number. -/
def EndsNumeral (rest : List Char) : Prop :=
  ∀ c ∈ rest.head?, c.isDigit = false ∧ c ≠ '.' ∧ c ≠ 'e' ∧ c ≠ 'E'

theorem endsNumeral_nil : EndsNumeral [] := fun _ member => nomatch member

theorem endsNumeral_cons {c : Char} (mark : c ∈ [',', ']', '\x7d']) (rest : List Char) :
    EndsNumeral (c :: rest) := by
  intro d same
  obtain rfl : c = d := Option.some.inj same
  simp only [List.mem_cons, List.not_mem_nil, or_false] at mark
  rcases mark with rfl | rfl | rfl <;> decide

theorem digits_append {ds rest : List Char} (each : ∀ c ∈ ds, c.isDigit = true)
    (ends : EndsNumeral rest) : digits (ds ++ rest) = (ds, rest) := by
  have stops : rest.takeWhile Char.isDigit = [] ∧ rest.dropWhile Char.isDigit = rest := by
    cases rest with
    | nil => exact ⟨rfl, rfl⟩
    | cons c rest => simp [(ends c rfl).1]
  rw [digits, List.span_eq_takeWhile_dropWhile, List.takeWhile_append_of_pos each,
    List.dropWhile_append_of_pos each, stops.1, stops.2, List.append_nil]

theorem digitChar_ne_zero : ∀ n < 10, 0 < n → Nat.digitChar n ≠ '0' := by decide

/-- Only zero is written with zero in front. -/
theorem toDigits_eq_cons {n : Nat} (positive : 0 < n) :
    ∃ c ds, Nat.toDigits 10 n = c :: ds ∧ c ≠ '0' := by
  induction n using Nat.strongRecOn with
  | ind n ih =>
    rw [Nat.toDigits_eq_if (by decide)]
    split
    · next single => exact ⟨_, [], rfl, digitChar_ne_zero n single positive⟩
    · next long =>
      obtain ⟨c, ds, front, other⟩ := ih (n / 10) (by omega) (by omega)
      exact ⟨c, ds ++ [(n % 10).digitChar], by rw [front, List.cons_append], other⟩

theorem wholeDigits_toDigits (n : Nat) {rest : List Char} (ends : EndsNumeral rest) :
    wholeDigits (Nat.toDigits 10 n ++ rest) = .ok (Nat.toDigits 10 n, rest) := by
  rcases Nat.eq_zero_or_pos n with rfl | positive
  · cases rest with
    | nil => rfl
    | cons c rest => simp [Nat.toDigits_zero, wholeDigits, (ends c rfl).1]
  · obtain ⟨c, ds, split, other⟩ := toDigits_eq_cons positive
    have each : ∀ d ∈ c :: ds, d.isDigit = true := by
      rw [← split]
      exact fun d => isDigit_of_mem_toDigits
    rw [split, List.cons_append, wholeDigits, if_pos (each c List.mem_cons_self),
      ← List.cons_append, digits_append each ends]
    exact fun same => other same

theorem numeral_toDigits (negative : Bool) (n : Nat) {rest : List Char} (ends : EndsNumeral rest) :
    numeral negative (Nat.toDigits 10 n ++ rest) =
      .ok (⟨negative, Nat.toDigits 10 n, none, none⟩, rest) := by
  have fraction : fractionPart rest = .ok (none, rest) := by
    fun_cases fractionPart rest with
    | case1 s => exact absurd rfl (ends '.' rfl).2.1
    | case2 => rfl
  have exponent : exponentPart rest = .ok (none, rest) := by
    cases rest with
    | nil => rfl
    | cons c rest =>
      obtain ⟨-, -, small, capital⟩ := ends c rfl
      simp [exponentPart, small, capital]
  rw [numeral, wholeDigits_toDigits n ends]
  simp [bind, Except.bind, fraction, exponent]

theorem le_ofDigitChars (ds : List Char) (n : Nat) : n ≤ Nat.ofDigitChars 10 ds n := by
  induction ds generalizing n with
  | nil => exact Nat.le_refl n
  | cons c ds ih =>
    rw [Nat.ofDigitChars_cons]
    exact Nat.le_trans (by omega) (ih _)

theorem gather_eq {ds : List Char} {n : Nat} (fits : Nat.ofDigitChars 10 ds n < wordLimit) :
    gather n ds = (Nat.ofDigitChars 10 ds n, 0) := by
  induction ds generalizing n with
  | nil => rfl
  | cons c ds ih =>
    rw [Nat.ofDigitChars_cons, Nat.mul_comm] at fits ⊢
    have within : n * 10 + digitValue c < wordLimit :=
      Nat.lt_of_le_of_lt (le_ofDigitChars ds _) fits
    rw [gather]
    simp only [within, if_true]
    exact ih fits

theorem wholeWord?_toDigits (negative : Bool) {n : Nat} (fits : n < wordLimit) :
    Numeral.wholeWord? ⟨negative, Nat.toDigits 10 n, none, none⟩ = some n := by
  have weight : Nat.ofDigitChars 10 (Nat.toDigits 10 n) 0 = n := Nat.ofDigitChars_ten_toDigits
  have gathered : gather 0 (Nat.toDigits 10 n) = (n, 0) := by
    rw [gather_eq (by rwa [weight]), weight]
  simp [Numeral.wholeWord?, gathered]

theorem number_toDigits {n : Nat} (fits : n < wordLimit) {rest : List Char}
    (ends : EndsNumeral rest) :
    number false (Nat.toDigits 10 n ++ rest) = .ok (.int n, rest) := by
  rw [number, numeral_toDigits false n ends]
  simp [bind, Except.bind, Numeral.value?, wholeWord?_toDigits false fits]

theorem number_toDigits_negative {n : Nat} (positive : 0 < n) (fits : n ≤ wordLimit / 2)
    {rest : List Char} (ends : EndsNumeral rest) :
    number true (Nat.toDigits 10 n ++ rest) = .ok (.int (-n), rest) := by
  have within : n < wordLimit := Nat.lt_of_le_of_lt fits (by decide)
  rw [number, numeral_toDigits true n ends]
  simp [bind, Except.bind, Numeral.value?, wholeWord?_toDigits true within, positive, fits]

end CatalogueViewer.Json
