/-!
# Binary floating-point numbers

A finite number of the binary64 format, as a sign, a significand and an exponent of two.
Multiplication and division round the exact quotient to the nearest number of the format, ties to
the even significand; `none` stands for a result beyond the largest one.
-/

namespace CatalogueViewer.Number

/-- The finite number `± significand * 2 ^ exponent`. -/
structure Binary64 where
  negative : Bool
  significand : Nat
  exponent : Int
  deriving DecidableEq, Repr

/-- The exponent of the smallest positive number. -/
def minExponent : Int := -1074

/-- The exponent of the largest number. -/
def maxExponent : Int := 971

/-- The least significand of 53 bits. -/
def leastFull : Nat := Nat.pow 2 52

/-- The quotient to the nearest integer, ties to even. -/
def roundQuotient (num den : Nat) : Nat :=
  let q := num / den
  let r := num % den
  if 2 * r < den || (2 * r == den && q % 2 == 0) then q else q + 1

/-- The ratio `num / den` in units of `2 ^ e`, as a ratio. -/
def scaleDown (num den : Nat) (e : Int) : Nat × Nat :=
  if 0 ≤ e then (num, den * Nat.pow 2 e.toNat) else (num * Nat.pow 2 (-e).toNat, den)

/-- The exponent that gives `num / den` a significand of 53 bits, or the smallest one. -/
def fittingExponent (num den : Nat) : Int :=
  let top : Int := (num.log2 : Int) - (den.log2 : Int)
  let (n, d) := scaleDown num den top
  max minExponent (if d ≤ n then top - 52 else top - 53)

namespace Binary64

def zero (negative : Bool) : Binary64 := ⟨negative, 0, minExponent⟩

def isZero (x : Binary64) : Bool := x.significand == 0

/-- The number nearest to `± num / den`, unless it exceeds the format. -/
def ofRatio? (negative : Bool) (num den : Nat) : Option Binary64 :=
  if num == 0 then some (zero negative)
  else
    let e := fittingExponent num den
    let (n, d) := scaleDown num den e
    let m := roundQuotient n d
    let x : Binary64 :=
      if m == 2 * leastFull then ⟨negative, leastFull, e + 1⟩ else ⟨negative, m, e⟩
    if maxExponent < x.exponent then none else some x

def ofNat? (n : Nat) : Option Binary64 := ofRatio? false n 1

def neg (x : Binary64) : Binary64 := { x with negative := !x.negative }

/-- The ratio `m * 2 ^ e`. -/
def ratio (m : Nat) (e : Int) : Nat × Nat :=
  if 0 ≤ e then (m * Nat.pow 2 e.toNat, 1) else (m, Nat.pow 2 (-e).toNat)

/-- The nearest number to a product, unless that is beyond the format. -/
def mul? (x y : Binary64) : Option Binary64 :=
  let (n, d) := ratio (x.significand * y.significand) (x.exponent + y.exponent)
  ofRatio? (x.negative != y.negative) n d

/-- The nearest number to a quotient, unless that is beyond the format. -/
def div? (x y : Binary64) : Option Binary64 :=
  let (n, d) := ratio x.significand (x.exponent - y.exponent)
  ofRatio? (x.negative != y.negative) n (d * y.significand)

end Binary64

example : Binary64.ofRatio? false 1 10 = some ⟨false, 0x1999999999999A, -56⟩ := by decide +kernel

end CatalogueViewer.Number
