/-!
# Lines

A line ends at a line feed.  `splitBreaks` keeps every piece between line feeds, `lines` is the
reader's view: no empty last line, and a carriage return directly before a line feed is not part of
the line.
-/

namespace CatalogueViewer.Text

/-- The number of bytes of a text in UTF-8. -/
def byteLength (s : List Char) : Nat := s.foldl (fun n c => n + c.utf8Size) 0

theorem foldl_utf8Size (n : Nat) (s : List Char) :
    s.foldl (fun n c => n + c.utf8Size) n = n + byteLength s := by
  induction s generalizing n with
  | nil => rfl
  | cons c r ih =>
    rw [byteLength, List.foldl_cons, List.foldl_cons, ih, ih]
    omega

theorem byteLength_cons (c : Char) (s : List Char) :
    byteLength (c :: s) = c.utf8Size + byteLength s := by
  simp only [byteLength, List.foldl_cons, Nat.zero_add]
  exact foldl_utf8Size c.utf8Size s

theorem byteLength_append (s t : List Char) :
    byteLength (s ++ t) = byteLength s + byteLength t := by
  simp only [byteLength, List.foldl_append]
  exact foldl_utf8Size (byteLength s) t

/-- The pieces between line feeds; there is always at least one. -/
def splitBreaks : List Char → List (List Char)
  | [] => [[]]
  | c :: r =>
    if c = '\n' then [] :: splitBreaks r
    else match splitBreaks r with
      | [] => [[c]]
      | first :: others => (c :: first) :: others

/-- The pieces with a line feed between each two. -/
def joinBreaks : List (List Char) → List Char
  | [] => []
  | [line] => line
  | line :: next :: others => line ++ '\n' :: joinBreaks (next :: others)

/-- A carriage return and line feed become one line feed. -/
def unifyBreaks : List Char → List Char
  | '\r' :: '\n' :: r => '\n' :: unifyBreaks r
  | c :: r => c :: unifyBreaks r
  | [] => []

/-- The line without a carriage return at its end. -/
def dropReturn (line : List Char) : List Char :=
  if line.getLast? = some '\r' then line.dropLast else line

/-- The lines of a list of pieces: all but the last piece ended at a line feed. -/
def linesOfPieces : List (List Char) → List (List Char)
  | [] => []
  | [last] => if last.isEmpty then [] else [last]
  | line :: next :: others => dropReturn line :: linesOfPieces (next :: others)

def lines (s : List Char) : List (List Char) := linesOfPieces (splitBreaks s)

theorem splitBreaks_ne_nil (s : List Char) : splitBreaks s ≠ [] := by
  cases s with
  | nil => simp [splitBreaks]
  | cons c r =>
    unfold splitBreaks
    split
    · simp
    · split <;> simp

theorem joinBreaks_splitBreaks (s : List Char) : joinBreaks (splitBreaks s) = s := by
  induction s with
  | nil => rfl
  | cons c r ih =>
    unfold splitBreaks
    split
    next h =>
      subst h
      cases hr : splitBreaks r with
      | nil => exact absurd hr (splitBreaks_ne_nil r)
      | cons first others => simp [joinBreaks, ← hr, ih]
    next =>
      cases hr : splitBreaks r with
      | nil => exact absurd hr (splitBreaks_ne_nil r)
      | cons first others =>
        rw [hr] at ih
        cases others with
        | nil => simpa [joinBreaks] using ih
        | cons next rest => simpa [joinBreaks] using ih

end CatalogueViewer.Text
