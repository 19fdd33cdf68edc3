import CatalogueViewer.Markdown.Container

/-!
# Link definitions

A definition of a link reference: a label in brackets, a colon, a destination and perhaps a title.
It is no block of its own in a document but decides where the next block starts.  `outer` are the
containers around it.
-/

namespace CatalogueViewer.Markdown.LinkDefinition

/-- Where a line goes on that continues the text of the line before it. -/
def continuation? (outer : List Container) (s : List Char) : Option (List Char) :=
  let (inside, c) := enterAll outer s
  let (missing, d) := c.use 4
  if missing = 0 then some d.rest
  else if interrupts inside d.rest || (inside && (afterUnderline? d.rest).isSome) then none
  else some d.rest

/-- What follows a label after its opening bracket.  A label shows something, and its blank runs
hold one line end at most; `broken` tells that the current run has had it. -/
def afterLabel? (outer : List Container) :
    (fuel : Nat) → (visible : Bool) → (broken : Bool) → List Char → Option (List Char)
  | 0, _, _, _ => none
  | _, _, _, [] => none
  | _, _, _, '[' :: _ => none
  | _, visible, _, ']' :: s => if visible then some s else none
  | _, _, _, ['\\'] => none
  | fuel + 1, _, _, '\\' :: _ :: s => afterLabel? outer fuel true false s
  | fuel + 1, visible, broken, c :: s =>
    if isAsciiBlank c then
      match lineEnd? (c :: s) with
      | none => afterLabel? outer fuel visible broken s
      | some next =>
        if broken then none
        else (continuation? outer next).bind (afterLabel? outer fuel visible true)
    else afterLabel? outer fuel true false s

/-- What follows white space with one line end at most; the flag tells whether there was one. -/
def afterGap? (outer : List Container) (s : List Char) : Option (List Char × Bool) :=
  let s := s.dropWhile isSpacing
  match lineEnd? s with
  | none => some (s, false)
  | some next =>
    match continuation? outer next with
    | none => none
    | some t =>
      let t := t.dropWhile isSpacing
      if atLineEnd t then none else some (t, true)

/-- What follows a destination in angle brackets, after the opening one. -/
def afterAngled? : List Char → Option (List Char)
  | [] => none
  | '>' :: s => some s
  | '\\' :: c :: s =>
    if isPunctuation c then afterAngled? s
    else if c == '\n' || c == '\r' then none
    else afterAngled? s
  | c :: s => if c == '\n' || c == '\r' || c == '<' then none else afterAngled? s

/-- What follows a bare destination; its parentheses are balanced and nest twice at most. -/
def afterBare? (nesting : Nat) : List Char → Option (List Char)
  | [] => if nesting = 0 then some [] else none
  | '\\' :: c :: s =>
    if isPunctuation c then afterBare? nesting s
    else if c.toNat ≤ 0x20 then if nesting = 0 then some (c :: s) else none
    else afterBare? nesting s
  | c :: s =>
    if c.toNat ≤ 0x20 then if nesting = 0 then some (c :: s) else none
    else if c == '(' then if 1 < nesting then none else afterBare? (nesting + 1) s
    else if c == ')' then if nesting = 0 then some (c :: s) else afterBare? (nesting - 1) s
    else afterBare? nesting s

def afterDestination? (s : List Char) : Option (List Char) :=
  match s with
  | '<' :: rest => afterAngled? rest
  | s =>
    match afterBare? 0 s with
    | none => none
    | some rest => if rest.length = s.length then none else some rest

/-- What follows a title after its opening mark. -/
def afterTitleText? (outer : List Container) (closing : Char) :
    (fuel : Nat) → List Char → Option (List Char)
  | 0, _ => none
  | _, [] => none
  | fuel + 1, c :: s =>
    if c = closing then some s
    else if c = '\n' || c = '\r' then
      match lineEnd? (c :: s) with
      | none => none
      | some next => (continuation? outer next).bind (afterTitleText? outer closing fuel)
    else if c = '(' && closing = ')' then none
    else if c = '\\' then
      match s with
      | d :: rest => afterTitleText? outer closing fuel (if isPunctuation d then rest else s)
      | [] => none
    else afterTitleText? outer closing fuel s

def afterTitle? (outer : List Container) (s : List Char) : Option (List Char) :=
  match s with
  | '"' :: rest => afterTitleText? outer '"' (rest.length + 1) rest
  | '\'' :: rest => afterTitleText? outer '\'' (rest.length + 1) rest
  | '(' :: rest => afterTitleText? outer ')' (rest.length + 1) rest
  | _ => none

/-- What follows a definition.  A title on a line of its own that turns out to be none belongs to
the text after the definition. -/
def after? (outer : List Container) (s : List Char) : Option (List Char) := do
  let '[' :: s := s | none
  let ':' :: s ← afterLabel? outer (s.length + 1) false false s | none
  let (s, _) ← afterGap? outer s
  let s ← afterDestination? s
  match afterGap? outer s with
  | none => some s
  | some (t, broken) =>
    if t.length = s.length && !broken then none
    else
      match afterTitle? outer t with
      | none => if broken then some s else none
      | some u => if isBlankLine u then some u else if broken then some s else none

end CatalogueViewer.Markdown.LinkDefinition
