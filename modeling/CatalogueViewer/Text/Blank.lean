/-!
# Blank characters

`isBlank` is the Unicode property White_Space.  Trimming, blankness of a text and its first word
are all taken with respect to it.
-/

namespace CatalogueViewer.Text

/-- The Unicode property White_Space. -/
def isBlank (c : Char) : Bool :=
  let n := c.toNat
  (0x09 ≤ n && n ≤ 0x0D) || n == 0x20 || n == 0x85 || n == 0xA0 || n == 0x1680 ||
    (0x2000 ≤ n && n ≤ 0x200A) || n == 0x2028 || n == 0x2029 || n == 0x202F || n == 0x205F ||
    n == 0x3000

/-- A space or a tab. -/
def isTabOrSpace (c : Char) : Bool := c == ' ' || c == '\t'

/-- A text without a visible character. -/
def isBlankText (s : List Char) : Bool := s.all isBlank

/-- The text up to the last character that `drop` rejects. -/
def dropWhileEnd (drop : Char → Bool) (s : List Char) : List Char :=
  (s.reverse.dropWhile drop).reverse

def trimStart (s : List Char) : List Char := s.dropWhile isBlank

def trimEnd (s : List Char) : List Char := dropWhileEnd isBlank s

def trim (s : List Char) : List Char := trimEnd (trimStart s)

/-- The first run of characters that are not blank, if there is one. -/
def firstWord? (s : List Char) : Option (List Char) :=
  match (trimStart s).takeWhile (!isBlank ·) with
  | [] => none
  | word => some word

theorem isBlankText_append (s t : List Char) :
    isBlankText (s ++ t) = (isBlankText s && isBlankText t) := by
  simp [isBlankText]

theorem trimStart_eq_nil_iff (s : List Char) : trimStart s = [] ↔ isBlankText s = true := by
  induction s with
  | nil => simp [trimStart, isBlankText]
  | cons c r ih =>
    simp only [trimStart, isBlankText] at ih
    by_cases h : isBlank c <;> simp [trimStart, isBlankText, h, ih]

end CatalogueViewer.Text
