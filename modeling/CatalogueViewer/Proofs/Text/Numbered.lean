import Mathlib.Data.List.TakeWhile

/-!
# Texts that end in a number

The decimal digits of a number and the text in front of them can be told apart as soon as a dash
stands in between.
-/

namespace CatalogueViewer

theorem isDigit_of_mem_toDigits {n : Nat} {c : Char} (member : c ∈ Nat.toDigits 10 n) :
    c.isDigit = true := Nat.isDigit_of_mem_toDigits (by decide) (by decide) member

theorem toDigits_inj {m n : Nat} (same : Nat.toDigits 10 m = Nat.toDigits 10 n) : m = n := by
  have values := congrArg (Nat.ofDigitChars 10 · 0) same
  simpa only [Nat.ofDigitChars_ten_toDigits] using values

/-- What stands before the last dash, and the number behind it, can be read off a text. -/
theorem numbered_inj {stem other : String} {m n : Nat}
    (same : stem ++ "-" ++ toString m = other ++ "-" ++ toString n) : stem = other ∧ m = n := by
  have written (text : String) (k : Nat) : (text ++ "-" ++ toString k).toList.reverse =
      (Nat.toDigits 10 k).reverse ++ '-' :: text.toList.reverse := by
    simp [String.toList_append, Nat.toString_eq_repr, Nat.toList_repr]
  have run (k : Nat) (before : List Char) :
      ((Nat.toDigits 10 k).reverse ++ '-' :: before).takeWhile Char.isDigit =
          (Nat.toDigits 10 k).reverse ∧
        ((Nat.toDigits 10 k).reverse ++ '-' :: before).dropWhile Char.isDigit =
          '-' :: before := by
    have each : ∀ c ∈ (Nat.toDigits 10 k).reverse, c.isDigit = true :=
      fun c member => isDigit_of_mem_toDigits (List.mem_reverse.mp member)
    rw [List.takeWhile_append_of_pos each, List.dropWhile_append_of_pos each]
    exact ⟨List.append_nil _, rfl⟩
  have backwards := congrArg (fun text : String => text.toList.reverse) same
  rw [written, written] at backwards
  have digits := congrArg (List.takeWhile Char.isDigit) backwards
  have front := congrArg (List.dropWhile Char.isDigit) backwards
  rw [(run m _).1, (run n _).1] at digits
  rw [(run m _).2, (run n _).2] at front
  have stems := List.reverse_inj.mp (List.cons.inj front).2
  exact ⟨String.toList_inj.mp stems, toDigits_inj (List.reverse_inj.mp digits)⟩

end CatalogueViewer
