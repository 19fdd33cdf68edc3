import CatalogueViewer.Diagram.Candidate
import CatalogueViewer.Markdown.Info
import CatalogueViewer.Markdown.Structure

/-!
# Document blocks

A document as a sequence of code blocks and of the text between them.  The text is kept as it
stands, without the line ends around it; a gap of nothing but blanks is no block.
-/

namespace CatalogueViewer.Markdown

open Text

structure CodeBlock where
  language : Option String
  text : String
  fenced : Bool
  /-- The bytes of the document from the opening fence to the closing one. -/
  start : Nat
  stop : Nat
  deriving DecidableEq, Repr

inductive Block where
  | text (source : String)
  | code (block : CodeBlock)
  deriving DecidableEq, Repr

namespace CodeBlock

/-- The block names a language, in capital or small letters. -/
def isLanguage (b : CodeBlock) (name : String) : Bool :=
  b.language.any fun language =>
    language.toList.map Char.toLower = name.toList.map Char.toLower

/-- A fenced block is a diagram if it says so or looks like one. -/
def isDiagram (b : CodeBlock) : Bool :=
  b.fenced && (b.isLanguage "mermaid" || Diagram.looksLikeDiagram b.text.toList)

/-- The block of a span in a document of `size` bytes. -/
def ofSpan (size : Nat) (s : CodeSpan) : CodeBlock where
  language := s.info.bind language?
  text := String.ofList s.code
  fenced := s.info.isSome
  start := size - byteLength s.start
  stop := size - byteLength s.stop

end CodeBlock

def isReturn (c : Char) : Bool := c == '\r' || c == '\n'

/-- The block of the text before `stop`, if it shows anything. -/
def gap (start stop : List Char) : List Block :=
  let text := start.take (start.length - stop.length)
  if isBlankText text then []
  else [.text (String.ofList (dropWhileEnd isReturn (text.dropWhile isReturn)))]

/-- The blocks of what is left of a document of `size` bytes. -/
def blocksFrom (size : Nat) (rest : List Char) : List CodeSpan → List Block
  | [] => gap rest []
  | s :: spans => gap rest s.start ++ .code (.ofSpan size s) :: blocksFrom size s.stop spans

def blocks (body : String) : List Block :=
  let text := body.toList
  blocksFrom (byteLength text) text (codeSpans text)

end CatalogueViewer.Markdown
