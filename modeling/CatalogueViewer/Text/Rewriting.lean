/-!
# Rewriting passages

A rule looks through a text for passages of a shape and puts another text in place of each.  A
passage can often be read in more than one way.  Its readings are listed with the preferred one
first, and only that one counts.
-/

namespace CatalogueViewer.Text

/-- The shape of a passage, with names for pieces of it. -/
inductive Shape (Name : Type) where
  | empty
  /-- One character of a class. -/
  | one (p : Char → Bool)
  /-- Any number of characters of a class, rather more than fewer. -/
  | most (p : Char → Bool)
  /-- Any number of characters of a class, rather fewer than more. -/
  | fewest (p : Char → Bool)
  | seq (first second : Shape Name)
  /-- Rather there than not. -/
  | optional (s : Shape Name)
  | piece (name : Name) (s : Shape Name)
  | lineStart
  | lineEnd

/-- A text with names for pieces of it. -/
structure Passage (Name : Type) where
  text : List Char
  pieces : List (Name × List Char) := []

/-- A way to read a passage at the start of a text, and the text after it. -/
structure Reading (Name : Type) extends Passage Name where
  rest : List Char

variable {Name : Type}

/-- The piece with this name; it is empty if it has not been read. -/
def Passage.get [DecidableEq Name] (m : Passage Name) (name : Name) : List Char :=
  (m.pieces.lookup name).getD []

def Reading.followedBy (r next : Reading Name) : Reading Name :=
  ⟨⟨r.text ++ next.text, r.pieces ++ next.pieces⟩, next.rest⟩

/-- Whether a line starts after a text; `fresh` tells whether one starts before it. -/
def startsLine (fresh : Bool) (text : List Char) : Bool :=
  match text.getLast? with
  | none => fresh
  | some c => c == '\n'

namespace Shape

/-- The runs of characters of a class at the start of a text, from the empty one on. -/
def runs (p : Char → Bool) : List Char → List (Reading Name)
  | [] => [⟨⟨[], []⟩, []⟩]
  | c :: s =>
    ⟨⟨[], []⟩, c :: s⟩ ::
      if p c then (runs p s).map fun r => ⟨⟨c :: r.text, r.pieces⟩, r.rest⟩ else []

/-- The readings at the start of a text, the preferred one first.  The flag tells whether a line
starts there. -/
def readings : Shape Name → Bool → List Char → List (Reading Name)
  | empty, _, s => [⟨⟨[], []⟩, s⟩]
  | one _, _, [] => []
  | one p, _, c :: s => if p c then [⟨⟨[c], []⟩, s⟩] else []
  | most p, _, s => (runs p s).reverse
  | fewest p, _, s => runs p s
  | seq first second, fresh, s =>
    (first.readings fresh s).flatMap fun r =>
      (second.readings (startsLine fresh r.text) r.rest).map r.followedBy
  | optional x, fresh, s => x.readings fresh s ++ [⟨⟨[], []⟩, s⟩]
  | piece name x, fresh, s =>
    (x.readings fresh s).map fun r => ⟨⟨r.text, (name, r.text) :: r.pieces⟩, r.rest⟩
  | lineStart, fresh, s => if fresh then [⟨⟨[], []⟩, s⟩] else []
  | lineEnd, _, s => if s.head?.all (· == '\n') then [⟨⟨[], []⟩, s⟩] else []

def inOrder : List (Shape Name) → Shape Name := List.foldr seq empty

def char (c : Char) : Shape Name := one (· == c)

def word (cs : List Char) : Shape Name := inOrder (cs.map char)

/-- At least one character of a class, rather more than fewer. -/
def mostOf (p : Char → Bool) : Shape Name := seq (one p) (most p)

/-- At least one character of a class, rather fewer than more. -/
def fewestOf (p : Char → Bool) : Shape Name := seq (one p) (fewest p)

end Shape

/-- A shape and the text to put in place of its passages. -/
structure Rule (Name : Type) where
  shape : Shape Name
  rewrite : Passage Name → List Char

namespace Rule

/-- Rewrites the passages of a text from left to right, after so many characters that belong to the
last passage.  A passage has at least one character. -/
def rewriteFrom (rule : Rule Name) : Nat → Bool → List Char → List Char
  | _, _, [] => []
  | skip + 1, _, c :: s => rule.rewriteFrom skip (c == '\n') s
  | 0, fresh, c :: s =>
    match (rule.shape.readings fresh (c :: s)).head? with
    | some ⟨⟨d :: more, pieces⟩, _⟩ =>
      rule.rewrite ⟨d :: more, pieces⟩ ++ rule.rewriteFrom more.length (c == '\n') s
    | _ => c :: rule.rewriteFrom 0 (c == '\n') s

def rewriteAll (rule : Rule Name) (text : List Char) : List Char := rule.rewriteFrom 0 true text

end Rule

end CatalogueViewer.Text
