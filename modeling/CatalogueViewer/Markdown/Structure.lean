import CatalogueViewer.Markdown.LinkDefinition

/-!
# Block structure

The code blocks of a document, found by following its block structure line by line.  Of the other
blocks only their extent counts.  A code block is given by the places where it starts and stops, as
the texts from there to the end of the document.
-/

namespace CatalogueViewer.Markdown

structure CodeSpan where
  start : List Char
  stop : List Char
  code : List Char
  /-- The text after the opening fence; an indented block has none. -/
  info : Option (List Char)
  deriving DecidableEq, Repr

/-- What is open before a line. -/
structure Open where
  /-- The open containers, the innermost first. -/
  containers : List Container := []
  /-- The last item started with a blank line and nothing has followed yet. -/
  emptyItem : Bool := false
  /-- The line before was blank. -/
  afterBlank : Bool := false
  deriving DecidableEq, Repr

namespace Open

/-- The open containers, the outermost first. -/
def outer (o : Open) : List Container := o.containers.reverse

def push (o : Open) (c : Container) : Open := { o with containers := c :: o.containers }

def pop (o : Open) : Open :=
  match o.containers with
  | [] => o
  | .list _ true :: rest => { o with containers := rest, emptyItem := false }
  | _ :: rest => { o with containers := rest }

def popMany (o : Open) : (n : Nat) → Open
  | 0 => o
  | n + 1 => o.pop.popMany n

/-- Closes an item that has nothing but a blank line; an item can start with one at most. -/
def finishEmptyItem (o : Open) : Open :=
  let closed :=
    match o.emptyItem && o.afterBlank, o.containers with
    | true, .item _ :: _ => o.pop
    | _, _ => o
  { closed with emptyItem := false }

/-- The innermost container but one is a list no longer tight. -/
def loosen : List Container → List Container
  | c :: .list mark _ :: rest => c :: .list mark false :: rest
  | cs => cs

/-- Closes a list that the line does not go on with. -/
def finishList (o : Open) : Open :=
  let o := o.finishEmptyItem
  let o :=
    match o.containers with
    | .list _ _ :: _ => o.pop
    | _ => o
  if o.afterBlank then { o with containers := loosen o.containers, afterBlank := false } else o

/-- Goes on with the open list of this mark or starts one. -/
def continueList (o : Open) (mark : Char) : Open :=
  let o := o.finishEmptyItem
  let start (o : Open) : Open := { o.push (.list mark true) with afterBlank := false }
  match o.containers with
  | [] => start o
  | .list m tight :: rest =>
    if m = mark then
      { o with containers := .list m (tight && !o.afterBlank) :: rest, afterBlank := false }
    else start o.finishList
  | _ => start o.finishList

/-- Takes note of a blank line.  An item without content no longer claims the lines after it. -/
def blank (o : Open) : Open :=
  match o.containers with
  | .quote :: _ => o
  | .item indent :: rest =>
    { o with containers := .item (if o.emptyItem then 0 else indent) :: rest, afterBlank := true }
  | _ => { o with afterBlank := true }

end Open

/-! ### Code -/

/-- The line as code: a carriage return before its last character is left out. -/
def codeLine (spare : Nat) (line : List Char) : List Char :=
  let text :=
    match line.reverse with
    | c :: '\r' :: rest => if c.utf8Size = 1 then (c :: rest).reverse else line
    | _ => line
  List.replicate spare ' ' ++ text

/-- A code block as it is read: its text, where it stops and where the next block starts. -/
structure CodeEnd where
  code : List Char
  stop : List Char
  next : List Char

/-- Reads the lines of a fenced block up to its closing fence or the end of its containers. -/
def fencedLines (outer : List Container) (indent : Nat) (fence : FenceMark) :
    (fuel : Nat) → List Char → CodeEnd
  | 0, s => ⟨[], s, s⟩
  | fuel + 1, s =>
    match enterAll outer s with
    | (false, _) => ⟨[], s, s⟩
    | (true, c) =>
      let c := c.skip indent
      let closing :=
        match c.use (4 - indent) with
        | (0, _) => none
        | (_, d) => afterClosingFence? fence d.rest
      match closing with
      | some stop => ⟨[], stop, (blankLine? stop).getD stop⟩
      | none =>
        let more := fencedLines outer indent fence fuel (nextLine c.rest)
        { more with code := codeLine c.spare (takeLine c.rest) ++ more.code }

/-- A line of an indented block and what follows it. -/
structure IndentedLine where
  text : List Char
  blank : Bool
  next : List Char

/-- Reads the lines of an indented block from a cursor in its first line or, unless `first`, in a
later one.  The first line is not blank. -/
def indentedLines (outer : List Container) :
    (fuel : Nat) → (first : Bool) → Cursor → List IndentedLine
  | 0, _, _ => []
  | fuel + 1, first, c =>
    let next := nextLine c.rest
    let more :=
      match enterAll outer next with
      | (false, _) => []
      | (true, d) =>
        let (missing, e) := d.use 4
        if e.rest.isEmpty || (missing != 0 && !atLineEnd e.rest) then []
        else indentedLines outer fuel false e
    ⟨codeLine c.spare (takeLine c.rest), !first && isBlankLine c.rest, next⟩ :: more

/-- The block that these lines make: blank lines at its end do not belong to it. -/
def indentedCode (start : List Char) (ls : List IndentedLine) : CodeEnd :=
  let kept := (ls.reverse.dropWhile IndentedLine.blank).reverse
  { code := kept.flatMap IndentedLine.text
    stop := (kept.getLast?.map IndentedLine.next).getD start
    next := (ls.getLast?.map IndentedLine.next).getD start }

/-! ### Other blocks -/

/-- What follows a block of HTML that ends with a line that holds `closing`. -/
def afterHtml (outer : List Container) (closing : List Char) :
    (fuel : Nat) → List Char → List Char
  | 0, s => s
  | fuel + 1, s =>
    let next := nextLine s
    match enterAll outer next with
    | (false, _) => next
    | (true, c) =>
      if Html.occursIn closing (takeLine s) || c.rest.isEmpty then next
      else afterHtml outer closing fuel c.rest

/-- What follows a block of HTML that ends before a blank line. -/
def afterLooseHtml (outer : List Container) : (fuel : Nat) → List Char → List Char
  | 0, s => s
  | fuel + 1, s =>
    let next := nextLine s
    match enterAll outer next with
    | (false, _) => next
    | (true, c) => if isBlankLine c.rest then next else afterLooseHtml outer fuel c.rest

/-- What follows a paragraph that ends before the line at `next`, of which `rest` is left after its
indentation: an underline belongs to the paragraph, the start of another block does not. -/
def paragraphEnd? (inside : Bool) (next rest : List Char) : Option (List Char) :=
  match if inside then afterUnderline? rest else none with
  | some after => some after
  | none => if interrupts inside rest then some next else none

/-- What follows a paragraph.  A line that does not belong to its containers still goes on with it
unless the line starts something else. -/
def afterParagraph (outer : List Container) : (fuel : Nat) → List Char → List Char
  | 0, s => s
  | fuel + 1, s =>
    let next := nextTextLine s
    let (inside, c) := enterAll outer next
    let (missing, d) := c.use 4
    match if missing = 0 then none else paragraphEnd? inside next d.rest with
    | some rest => rest
    | none =>
      let e := d.skipAll
      if atLineEnd e.rest then next else afterParagraph outer fuel e.rest

/-- What follows a paragraph that may start with link definitions. -/
def afterText (outer : List Container) : (fuel : Nat) → List Char → List Char
  | 0, s => s
  | fuel + 1, s =>
    match LinkDefinition.after? outer s with
    | none => afterParagraph outer (s.length + 1) s
    | some t =>
      match blankLine? t with
      | none => t
      | some next =>
        let (inside, c) := enterAll outer next
        let (missing, d) := c.use 4
        if missing != 0 && interrupts inside d.rest then next
        else afterText outer fuel d.skipAll.rest

/-! ### Documents -/

/-- Opens the containers that start at a cursor, up to the content of the line or, when an item has
none, past the line. -/
def openContainers : (fuel : Nat) → Open → Cursor → Open × (Cursor ⊕ List Char)
  | 0, o, c => (o, .inl c)
  | fuel + 1, o, c =>
    match c.use 4 with
    | (0, _) => (o, .inl c)
    | (missing, d) =>
      match itemStart? (4 - missing) d with
      | some (mark, indent, e) =>
        let o := (o.continueList mark).push (.item indent)
        match blankLine? e.rest with
        | some next => ({ o with emptyItem := true }, .inr next)
        | none => openContainers fuel o e
      | none =>
        match afterQuoteMark? d with
        | some e => openContainers fuel (o.finishList.push .quote) e
        | none => (o, .inl c)

/-- What reading a block found: the state after it, a code block if it is one, and the rest. -/
structure Step where
  state : Open
  span : Option CodeSpan
  rest : List Char

/-- Reads the block whose first line goes on at a cursor; the line is not blank. -/
def readLeaf (o : Open) (c : Cursor) : Step :=
  let outer := o.outer
  let fuel := c.rest.length + 1
  let (missing, d) := c.use 4
  if missing = 0 then
    let ls := indentedLines outer fuel true d
    let code := indentedCode d.rest ls
    ⟨{ o with afterBlank := ls.getLast?.any IndentedLine.blank },
      some ⟨d.rest, code.stop, code.code, none⟩, code.next⟩
  else
    let s := d.rest
    let other (rest : List Char) : Step := ⟨o, none, rest⟩
    let html? : Option (List Char) :=
      match s with
      | '<' :: tail =>
        match Html.closing? tail with
        | some closing => some (afterHtml outer closing fuel s)
        | none =>
          if Html.startsElement tail || Html.startsLoneTag tail then
            some (afterLooseHtml outer fuel s)
          else none
      | _ => none
    match html?, afterBreak? s with
    | some rest, _ => other rest
    | none, some rest => other rest
    | none, none =>
      if startsHeading s then other (nextTextLine s)
      else
        match fenceStart? s with
        | some fence =>
          let head := (s.drop fence.count).dropWhile isSpacing
          let code := fencedLines outer (4 - missing) fence fuel (nextLine head)
          ⟨o, some ⟨s, code.stop, code.code, some (takeLine head)⟩, code.next⟩
        | none => other (afterText outer fuel s)

/-- Reads one block or one blank line. -/
def readBlock (o : Open) (s : List Char) : Step :=
  let (entered, c) := matching ⟨s, 0, 0⟩ o.outer
  let o := o.popMany (o.containers.length - entered)
  match openContainers (s.length + 1) o c with
  | (o, .inr next) => ⟨o, none, next⟩
  | (o, .inl c) =>
    match blankLine? c.rest with
    | some next => ⟨o.blank, none, next⟩
    | none => readLeaf o.finishList c

/-- The code blocks of what is left of a document. -/
def codeSpansFrom : (fuel : Nat) → Open → List Char → List CodeSpan
  | 0, _, _ => []
  | fuel + 1, o, s =>
    if s.isEmpty then []
    else
      let step := readBlock o s
      step.span.toList ++ codeSpansFrom fuel step.state step.rest

def codeSpans (s : List Char) : List CodeSpan := codeSpansFrom (s.length + 1) {} s

end CatalogueViewer.Markdown
