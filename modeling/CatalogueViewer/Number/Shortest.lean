import CatalogueViewer.Number.Binary64

/-!
# Shortest decimal text of a number

The digits are the fewest whose decimal rounds back to the number, and of those the nearest.  They
are found by testing, for one digit, two digits and so on, the two decimals around the number.
`text` writes small exponents positionally and the others with a signed exponent of two digits or
more.
-/

namespace CatalogueViewer.Number

/-- The decimal `digits * 10 ^ exponent`. -/
structure Decimal where
  digits : Nat
  exponent : Int
  deriving DecidableEq, Repr

/-- The interval that rounds to a number: its value and its two ends as numerators over one
denominator. -/
structure RoundingInterval where
  low : Nat
  value : Nat
  high : Nat
  denominator : Nat
  closed : Bool

namespace RoundingInterval

/-- The reals nearer to `x` than to its neighbours; the ends belong to it for an even significand.
Below a power of two the neighbour is half as far. -/
def of (x : Binary64) : RoundingInterval :=
  let gap := if x.significand == leastFull && x.exponent != minExponent then 1 else 2
  let unit (k : Nat) : Nat := k * Nat.pow 2 (x.exponent - 2).toNat
  { low := unit (4 * x.significand - gap)
    value := unit (4 * x.significand)
    high := unit (4 * x.significand + 2)
    denominator := Nat.pow 2 (2 - x.exponent).toNat
    closed := x.significand % 2 == 0 }

/-- The decimal `d * 10 ^ e` over the denominator of the interval and a power of ten. -/
def contains (i : RoundingInterval) (d : Decimal) : Bool :=
  let up := Nat.pow 10 (-d.exponent).toNat
  let n := d.digits * Nat.pow 10 d.exponent.toNat * i.denominator
  let below (a b : Nat) : Bool := if i.closed then a ≤ b else a < b
  below (i.low * up) n && below n (i.high * up)

/-- The largest decimal with this exponent that does not exceed the value. -/
def floorAt (i : RoundingInterval) (e : Int) : Decimal :=
  ⟨i.value * Nat.pow 10 (-e).toNat / (i.denominator * Nat.pow 10 e.toNat), e⟩

/-- The decimals with this exponent around the value, the nearer one first; halfway the even one. -/
def around (i : RoundingInterval) (e : Int) : List Decimal :=
  let num := i.value * Nat.pow 10 (-e).toNat
  let den := i.denominator * Nat.pow 10 e.toNat
  let down := num / den
  let up := down + 1
  if roundQuotient num den == down then [⟨down, e⟩, ⟨up, e⟩] else [⟨up, e⟩, ⟨down, e⟩]

/-- The number of decimal digits of a positive number. -/
def digitCount (n : Nat) : Nat := (Nat.toDigits 10 n).length

/-- The power of ten at which the first digit of the value stands. -/
def leading (i : RoundingInterval) : Int :=
  let whole := i.value / i.denominator
  if 0 < whole then (digitCount whole : Int) - 1
  else -(digitCount ((i.denominator - 1) / i.value) : Int)

/-- The shortest decimal in the interval, of at most 17 digits. -/
def shortest (i : RoundingInterval) : Decimal :=
  let top := i.leading
  let grids := (List.range 17).flatMap fun (n : Nat) => i.around (top - n)
  (grids.find? i.contains).getD (i.floorAt (top - 16))

end RoundingInterval

/-- The decimal without zeros at its end. -/
def Decimal.strip : Nat → Decimal → Decimal
  | 0, d => d
  | n + 1, d =>
    if d.digits != 0 && d.digits % 10 == 0 then strip n ⟨d.digits / 10, d.exponent + 1⟩ else d

/-- The exponents of the leading digit that are written positionally. -/
def isPositional (e : Int) : Bool := -5 < e && e < 16

/-- The digits `ds`, the first of them standing at `10 ^ e`, with a point. -/
def positional (ds : List Char) (e : Int) : List Char :=
  if e < 0 then '0' :: '.' :: List.replicate (-e - 1).toNat '0' ++ ds
  else
    let n := e.toNat + 1
    let whole := ds.take n ++ List.replicate (n - ds.length) '0'
    let fraction := ds.drop n
    whole ++ '.' :: (if fraction.isEmpty then ['0'] else fraction)

/-- The digits `ds` with a point after the first, and the exponent `e`. -/
def scientific (ds : List Char) (e : Int) : List Char :=
  let mantissa := match ds with
    | [] => []
    | [d] => [d]
    | d :: more => d :: '.' :: more
  let size := Nat.toDigits 10 e.natAbs
  mantissa ++ 'e' :: (if e < 0 then '-' else '+') ::
    (List.replicate (2 - size.length) '0' ++ size)

/-- The shortest text that reads back as `x`. -/
def Binary64.text (x : Binary64) : List Char :=
  let body :=
    if x.isZero then ['0', '.', '0']
    else
      let d := (RoundingInterval.of x).shortest.strip 17
      let ds := Nat.toDigits 10 d.digits
      let e := d.exponent + (ds.length - 1 : Nat)
      if isPositional e then positional ds e else scientific ds e
  if x.negative then '-' :: body else body

end CatalogueViewer.Number
