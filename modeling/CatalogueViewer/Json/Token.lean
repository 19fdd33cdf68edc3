import CatalogueViewer.Json.Error
import CatalogueViewer.Text.Lines

/-!
# JSON tokens

Readers of the parts of a JSON text that hold no other value: blanks, words, strings and numbers,
and the marks between the elements of a container.  A reader takes the characters that remain and
returns what it read with those that follow.
-/

namespace CatalogueViewer.Json

/-- Takes something off the front of a text, or says why it cannot. -/
abbrev Reader (α : Type) := List Char → Except TextError (α × List Char)

/-- The characters that may stand between tokens. -/
def isGap (c : Char) : Bool := c == ' ' || c == '\t' || c == '\n' || c == '\r'

def skipGap (s : List Char) : List Char := s.dropWhile isGap

def letters (value : α) : List Char → Reader α
  | [], s => .ok (value, s)
  | _ :: _, [] => .error .truncated
  | c :: word, d :: s => if c = d then letters value word s else .error .malformed

/-! ### Strings -/

def hexDigit? (c : Char) : Option Nat :=
  if c.isDigit then some (c.toNat - '0'.toNat)
  else if 'a' ≤ c && c ≤ 'f' then some (c.toNat - 'a'.toNat + 10)
  else if 'A' ≤ c && c ≤ 'F' then some (c.toNat - 'A'.toNat + 10)
  else none

/-- Reads four hexadecimal digits; the text has to hold four more bytes. -/
def fourDigits : Reader Nat
  | a :: b :: c :: d :: rest =>
    match hexDigit? a, hexDigit? b, hexDigit? c, hexDigit? d with
    | some w, some x, some y, some z => .ok (((w * 16 + x) * 16 + y) * 16 + z, rest)
    | _, _, _, _ => .error .malformed
  | short => if Text.byteLength short < 4 then .error .truncated else .error .malformed

def isHighSurrogate (n : Nat) : Bool := 0xD800 ≤ n && n ≤ 0xDBFF

def isLowSurrogate (n : Nat) : Bool := 0xDC00 ≤ n && n ≤ 0xDFFF

/-- Reads the given character. -/
def exactly (c : Char) : Reader Unit
  | [] => .error .truncated
  | d :: s => if c = d then .ok ((), s) else .error .malformed

/-- Reads the digits of a character spelled by number: one code point of the basic plane, or a pair
of surrogates. -/
def codePoint : Reader Char := fun s => do
  let (n, s) ← fourDigits s
  if isLowSurrogate n then .error .malformed
  else if isHighSurrogate n then
    let (_, s) ← exactly '\\' s
    let (_, s) ← exactly 'u' s
    let (m, s) ← fourDigits s
    if isLowSurrogate m then
      .ok (Char.ofNat (0x10000 + (n - 0xD800) * 0x400 + (m - 0xDC00)), s)
    else .error .malformed
  else .ok (Char.ofNat n, s)

/-- Reads four digits, whatever they spell. -/
def anyCodePoint : Reader Char := fun s => do
  let (_, s) ← fourDigits s
  .ok ('\uFFFD', s)

/-- The character that a letter after a backslash stands for. -/
def shortEscape? : Char → Option Char
  | '"' => some '"'
  | '\\' => some '\\'
  | '/' => some '/'
  | 'b' => some '\x08'
  | 'f' => some '\x0c'
  | 'n' => some '\n'
  | 'r' => some '\r'
  | 't' => some '\t'
  | _ => none

/-- Reads what follows a backslash. -/
def escape (numbered : Reader Char) : Reader Char
  | [] => .error .truncated
  | 'u' :: s => numbered s
  | c :: s =>
    match shortEscape? c with
    | some d => .ok (d, s)
    | none => .error .malformed

/-- Reads at most `fuel` characters of a string and its closing quote. -/
def stringTail (numbered : Reader Char) : (fuel : Nat) → Reader (List Char)
  | 0, _ => .error .malformed
  | _ + 1, [] => .error .truncated
  | _ + 1, '"' :: s => .ok ([], s)
  | fuel + 1, '\\' :: s => do
    let (c, s) ← escape numbered s
    let (cs, s) ← stringTail numbered fuel s
    .ok (c :: cs, s)
  | fuel + 1, c :: s =>
    if c.toNat < 0x20 then .error .malformed
    else do
      let (cs, s) ← stringTail numbered fuel s
      .ok (c :: cs, s)

def string : Reader String := fun s => do
  let (cs, s) ← stringTail codePoint (s.length + 1) s
  .ok (String.ofList cs, s)

/-- Passes over a string after its opening quote. -/
def skipString : Reader Unit := fun s => do
  let (_, s) ← stringTail anyCodePoint (s.length + 1) s
  .ok ((), s)

/-! ### Marks between elements -/

inductive Next where
  | closed (rest : List Char)
  | element (rest : List Char)

/-- Reads up to the next item of a list or past its end. -/
def nextItem (first : Bool) (s : List Char) : Except TextError Next :=
  match skipGap s with
  | [] => .error .truncated
  | ']' :: s => .ok (.closed s)
  | c :: s =>
    if first then .ok (.element (c :: s))
    else if c = ',' then
      match skipGap s with
      | [] => .error .truncated
      | ']' :: _ => .error .malformed
      | s => .ok (.element s)
    else .error .malformed

/-- Reads up to the next name of an object, past its opening quote, or past the end of the
object. -/
def nextName (first : Bool) (s : List Char) : Except TextError Next :=
  match skipGap s with
  | [] => .error .truncated
  | '}' :: s => .ok (.closed s)
  | c :: s =>
    if first then if c = '"' then .ok (.element s) else .error .malformed
    else if c = ',' then
      match skipGap s with
      | [] => .error .truncated
      | '"' :: s => .ok (.element s)
      | _ => .error .malformed
    else .error .malformed

def colon : Reader Unit := fun s => exactly ':' (skipGap s)

def listEnd : Reader Unit := fun s => exactly ']' (skipGap s)

def textEnd (s : List Char) : Except TextError Unit :=
  if (skipGap s).isEmpty then .ok () else .error .malformed

/-! ### Containers -/

def items (item : Reader α) : (fuel : Nat) → (first : Bool) → Reader (List α)
  | 0, _, _ => .error .malformed
  | fuel + 1, first, s =>
    match nextItem first s with
    | .error e => .error e
    | .ok (.closed s) => .ok ([], s)
    | .ok (.element s) => do
      let (x, s) ← item s
      let (xs, s) ← items item fuel false s
      .ok (x :: xs, s)

def members (name : Reader κ) (item : Reader α) :
    (fuel : Nat) → (first : Bool) → Reader (List (κ × α))
  | 0, _, _ => .error .malformed
  | fuel + 1, first, s =>
    match nextName first s with
    | .error e => .error e
    | .ok (.closed s) => .ok ([], s)
    | .ok (.element s) => do
      let (k, s) ← name s
      let (_, s) ← colon s
      let (x, s) ← item s
      let (xs, s) ← members name item fuel false s
      .ok ((k, x) :: xs, s)

end CatalogueViewer.Json
