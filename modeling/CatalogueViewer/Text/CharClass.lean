import CatalogueViewer.Text.WordRanges
import CatalogueViewer.Text.AlphanumericRanges

/-!
# Character classes

Membership of a character in the word and alphanumeric classes of Unicode, and equality of letters
up to simple case folding.
-/

namespace CatalogueViewer.Text

/-- The code point lies in one of the inclusive ranges. -/
def inRanges (ranges : List (Nat × Nat)) (n : Nat) : Bool :=
  ranges.any fun range => range.1 ≤ n && n ≤ range.2

/-- Letters, marks, decimal digits, connectors and joiners. -/
def isWordChar (c : Char) : Bool :=
  if c.toNat < 0x80 then c.isAlphanum || c == '_' else inRanges wordRanges c.toNat

/-- Alphabetic or numeric characters. -/
def isAlphanumeric (c : Char) : Bool :=
  if c.toNat < 0x80 then c.isAlphanum else inRanges alphanumericRanges c.toNat

/-- The ASCII letter whose simple case folding `c` shares.  Two letters beyond ASCII fold to one:
the long s and the kelvin sign. -/
def foldLetter (c : Char) : Char :=
  if c == '\u017f' then 's' else if c == '\u212a' then 'k' else c.toLower

/-- `c` is the letter `letter` in either case. -/
def sameLetter (letter c : Char) : Bool := foldLetter letter == foldLetter c

end CatalogueViewer.Text
