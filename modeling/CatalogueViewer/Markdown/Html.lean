import CatalogueViewer.Markdown.Line

/-!
# HTML blocks

How a line can start a block of raw HTML, and where such a block ends: some forms run to a closing
text, the others to a blank line.  All functions take the text after the opening bracket.
-/

namespace CatalogueViewer.Markdown.Html

/-- Elements whose content is kept raw to their closing tag. -/
def rawElements : List String := ["pre", "style", "script", "textarea"]

/-- Elements of which any tag starts a block. -/
def blockElements : List String :=
  ["address", "article", "aside", "base", "basefont", "blockquote", "body", "caption", "center",
   "col", "colgroup", "dd", "details", "dialog", "dir", "div", "dl", "dt", "fieldset",
   "figcaption", "figure", "footer", "form", "frame", "frameset", "h1", "h2", "h3", "h4", "h5",
   "h6", "head", "header", "hr", "html", "iframe", "legend", "li", "link", "main", "menu",
   "menuitem", "nav", "noframes", "ol", "optgroup", "option", "p", "param", "search", "section",
   "summary", "table", "tbody", "td", "tfoot", "th", "thead", "title", "tr", "track", "ul"]

/-- What follows a word in either case. -/
def afterWord? (word : List Char) (s : List Char) : Option (List Char) :=
  if (s.take word.length).map Char.toLower = word then some (s.drop word.length) else none

/-- The text that ends a block, when the start of the block asks for one. -/
def closing? (s : List Char) : Option (List Char) :=
  let raw := rawElements.findSome? fun name =>
    match afterWord? name.toList s with
    | none => none
    | some rest =>
      if rest.head?.all fun c => isAsciiBlank c || c == '>' then
        some ("</".toList ++ name.toList ++ ['>'])
      else none
  match raw with
  | some closing => some closing
  | none =>
    if "!--".toList.isPrefixOf s then some "-->".toList
    else if s.head? = some '?' then some "?>".toList
    else if "![CDATA[".toList.isPrefixOf s then some "]]>".toList
    else
      match s with
      | '!' :: c :: _ => if c.isAlpha then some ['>'] else none
      | _ => none

/-- A tag of a block element starts here. -/
def startsElement (s : List Char) : Bool :=
  let s := match s with
    | '/' :: rest => rest
    | s => s
  let name := s.takeWhile Char.isAlphanum
  let tail := s.drop name.length
  blockElements.contains (String.ofList (name.map Char.toLower)) &&
    match tail with
    | [] => true
    | '/' :: '>' :: _ => true
    | c :: _ => c == ' ' || c == '\t' || c == '\r' || c == '\n' || c == '>'

/-! ### A whole tag on a line -/

def isNameStart (c : Char) : Bool := c.isAlpha || c == '_' || c == ':'

def isNameChar (c : Char) : Bool := c.isAlphanum || c == '_' || c == '.' || c == ':' || c == '-'

def isBareValueChar (c : Char) : Bool :=
  !(c == ' ' || c == '=' || c == '>' || c == '<' || c == '\x60' || c == '\'' || c == '"' ||
    c == '\n' || c == '\r')

/-- What follows white space on the same line. -/
def skipSpacing? (s : List Char) : Option (List Char) :=
  match s.dropWhile isSpacing with
  | [] => some []
  | c :: rest => if c == '\n' || c == '\r' then none else some (c :: rest)

/-- What follows a quoted value on the same line. -/
def afterQuote? (quote : Char) : List Char → Option (List Char)
  | [] => none
  | c :: s =>
    if c = quote then some s
    else if c == '\n' || c == '\r' then none
    else afterQuote? quote s

/-- What follows the value of an attribute. -/
def afterValue? : List Char → Option (List Char)
  | [] => none
  | c :: s =>
    if c == '"' || c == '\'' then afterQuote? c s
    else if isBareValueChar c then some (s.dropWhile isBareValueChar)
    else none

/-- What follows an attribute with or without a value. -/
def afterAttribute? : List Char → Option (List Char)
  | [] => none
  | c :: s =>
    if isNameStart c then
      let tail := s.dropWhile isNameChar
      match skipSpacing? tail with
      | some ('=' :: value) => (skipSpacing? value).bind afterValue?
      | some _ => some tail
      | none => none
    else none

/-- What follows the attributes of an opening tag; `fuel` bounds their number. -/
def afterAttributes? : (fuel : Nat) → List Char → Option (List Char)
  | 0, _ => none
  | fuel + 1, s =>
    let tail := s.dropWhile isSpacing
    match tail with
    | [] => none
    | c :: _ =>
      if c == '\n' || c == '\r' then none
      else if c == '/' || c == '>' then some tail
      else if tail.length == s.length then none
      else (afterAttribute? tail).bind (afterAttributes? fuel)

/-- What follows a whole tag. -/
def afterTag? (s : List Char) : Option (List Char) :=
  let closing := s.head? == some '/'
  let s := if closing then s.drop 1 else s
  match s with
  | [] => none
  | c :: rest =>
    if !c.isAlpha then none
    else
      let tail := rest.dropWhile fun d => d.isAlphanum || d == '-'
      let ending := if closing then some tail else afterAttributes? (tail.length + 1) tail
      match ending with
      | none => none
      | some tail =>
        let tail := tail.dropWhile isSpacing
        let tail := if !closing && tail.head? == some '/' then tail.drop 1 else tail
        if tail.head? == some '>' then some (tail.drop 1) else none

/-- A whole tag stands alone on the line. -/
def startsLoneTag (s : List Char) : Bool := (afterTag? s).any isBlankLine

def occursIn (word : List Char) : List Char → Bool
  | [] => word.isEmpty
  | c :: s => word.isPrefixOf (c :: s) || occursIn word s

end CatalogueViewer.Markdown.Html
