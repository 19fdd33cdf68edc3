import CatalogueViewer.Json.Token

/-!
# JSON numerals

`numeral` reads the digits of a number, `Numeral.value?` weighs them.  A whole number within 64 bits
stays exact.  Any other number is the significand of at most 64 bits, times or divided by one power
of ten, each rounded to binary64; digits that the significand cannot take count as powers of ten.
-/

namespace CatalogueViewer.Json

open Number (Binary64)

/-- The parts of a number as written. -/
structure Numeral where
  negative : Bool
  whole : List Char
  fraction : Option (List Char)
  /-- The sign and the digits of the exponent. -/
  exponent : Option (Bool × List Char)
  deriving DecidableEq, Repr

/-- Reads as many digits as there are. -/
def digits (s : List Char) : List Char × List Char := s.span Char.isDigit

/-- Reads the digits before the point; only a lone zero starts with zero. -/
def wholeDigits : Reader (List Char)
  | [] => .error .truncated
  | '0' :: s =>
    match s with
    | c :: _ => if c.isDigit then .error .malformed else .ok (['0'], s)
    | [] => .ok (['0'], s)
  | c :: s => if c.isDigit then .ok (digits (c :: s)) else .error .malformed

def someDigits : Reader (List Char)
  | [] => .error .truncated
  | c :: s => if c.isDigit then .ok (digits (c :: s)) else .error .malformed

/-- The digits after a point, if there is one; there must be some. -/
def fractionPart : Reader (Option (List Char))
  | '.' :: s => do
    let (ds, s) ← someDigits s
    .ok (some ds, s)
  | s => .ok (none, s)

def exponentSign : List Char → Bool × List Char
  | '+' :: s => (false, s)
  | '-' :: s => (true, s)
  | s => (false, s)

/-- The sign and the digits of an exponent, if there is one; there must be some. -/
def exponentPart : Reader (Option (Bool × List Char))
  | [] => .ok (none, [])
  | c :: s =>
    if c = 'e' || c = 'E' then do
      let (negative, s) := exponentSign s
      let (ds, s) ← someDigits s
      .ok (some (negative, ds), s)
    else .ok (none, c :: s)

def numeral (negative : Bool) : Reader Numeral := fun s => do
  let (whole, s) ← wholeDigits s
  let (fraction, s) ← fractionPart s
  let (exponent, s) ← exponentPart s
  .ok (⟨negative, whole, fraction, exponent⟩, s)

/-! ### Weight -/

/-- Words are the numbers below this. -/
def wordLimit : Nat := UInt64.size

def digitValue (c : Char) : Nat := c.toNat - '0'.toNat

/-- Appends digits to `n` while the result stays a word; also the number of digits left over. -/
def gather (n : Nat) : List Char → Nat × Nat
  | [] => (n, 0)
  | c :: ds =>
    let m := n * 10 + digitValue c
    if m < wordLimit then gather m ds else (n, ds.length + 1)

/-- The largest power of ten below the limit of the format. -/
def largestPower : Nat := 308

/-- The power of ten, unless it is beyond the format. -/
def tenTo? (k : Nat) : Option Binary64 := Binary64.ofNat? (Nat.pow 10 k)

/-- The quotient `x / 10 ^ k`, for a power within the format. -/
def divTen (x : Binary64) (k : Nat) : Option Binary64 := do x.div? (← tenTo? k)

/-- `x / 10 ^ k` for a word `x`.  A power beyond the format is taken in two steps; the second leaves
nothing of a word when it is a full one, so no third is needed. -/
def divTenPow (x : Binary64) (k : Nat) : Option Binary64 := do
  if k ≤ largestPower then divTen x k
  else divTen (← divTen x largestPower) (min (k - largestPower) largestPower)

/-- `x * 10 ^ e`, unless it is too large. -/
def scaleTen (x : Binary64) (e : Int) : Option Binary64 :=
  if e < 0 then divTenPow x e.natAbs
  else if largestPower < e.natAbs then if x.isZero then some x else none
  else do x.mul? (← tenTo? e.natAbs)

namespace Numeral

def writtenExponent (n : Numeral) : Int :=
  match n.exponent with
  | none => 0
  | some (negative, ds) =>
    let size : Int := ds.foldl (fun m c => m * 10 + digitValue c) 0
    if negative then -size else size

/-- The whole number, if it is written without fraction and exponent and fits a word. -/
def wholeWord? (n : Numeral) : Option Nat :=
  match n.fraction, n.exponent, gather 0 n.whole with
  | none, none, (word, 0) => some word
  | _, _, _ => none

/-- The rounded value, unless it is too large. -/
def rounded? (n : Numeral) : Option Binary64 := do
  let (whole, dropped) := gather 0 n.whole
  let fraction := n.fraction.getD []
  let (significand, unread) := gather whole fraction
  let e : Int := (dropped : Int) - ((fraction.length - unread : Nat) : Int) + n.writtenExponent
  let x ← scaleTen (← Binary64.ofNat? significand) e
  some (if n.negative then x.neg else x)

/-- A number beyond binary64 has no value. -/
def value? (n : Numeral) : Option Json :=
  match n.wholeWord? with
  | none => n.rounded?.map .float
  | some word =>
    if !n.negative then some (.int word)
    else if 0 < word && word ≤ wordLimit / 2 then some (.int (-word))
    else n.rounded?.map .float

end Numeral

/-- Reads a number after its sign and weighs it. -/
def number (negative : Bool) : Reader Json := fun s => do
  let (n, s) ← numeral negative s
  match n.value? with
  | some x => .ok (x, s)
  | none => .error .malformed

/-- Passes over a number after its sign.  One that stops too early is malformed. -/
def skipNumber : Reader Unit := fun s =>
  match numeral false s with
  | .ok (_, s) => .ok ((), s)
  | .error _ => .error .malformed

end CatalogueViewer.Json
