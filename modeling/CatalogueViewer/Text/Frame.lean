import CatalogueViewer.Text.Blank
import CatalogueViewer.Text.Lines

/-!
# Framed text

A text in a box with a label in its upper edge.  All lines of the box have the same number of
characters; lines of the text beyond the limit are cut and end in an ellipsis.
-/

namespace CatalogueViewer.Text

/-- The text itself, or its beginning with an ellipsis where it is longer than `limit`. -/
def ellipsize (limit : Nat) (s : List Char) : List Char :=
  if limit = 0 then []
  else if s.length ≤ limit then s
  else s.take (limit - 1) ++ ['…']

/-- The lines of a body as a frame shows them. -/
def frameContent (limit : Nat) (body : List Char) : List (List Char) :=
  (lines body).map fun line => ellipsize limit (trimEnd line)

/-- The label of a frame with a blank at either side. -/
def frameLabel (label : List Char) : List Char := ' ' :: (label ++ [' '])

/-- The number of characters between the blanks inside the borders. -/
def frameWidth (label : List Char) (content : List (List Char)) : Nat :=
  max ((content.map List.length).foldr max 0) (frameLabel label).length

/-- One line of the box around a line of the content. -/
def frameLine (width : Nat) (line : List Char) : List Char :=
  '│' :: ' ' :: (line ++ List.replicate (width - line.length) ' ' ++ [' ', '│'])

/-- The lines of the box. -/
def frameLines (limit : Nat) (label body : List Char) : List (List Char) :=
  let content := frameContent limit body
  let width := frameWidth label content
  let edge := frameLabel label
  let top := '┌' :: '─' :: (edge ++ List.replicate (width + 1 - edge.length) '─' ++ ['┐'])
  let bottom := '└' :: (List.replicate (width + 2) '─' ++ ['┘'])
  top :: content.map (frameLine width) ++ [bottom]

/-- A body in a box under its label. -/
def frame (limit : Nat) (label body : List Char) : List Char :=
  joinBreaks (frameLines limit label body)

end CatalogueViewer.Text
