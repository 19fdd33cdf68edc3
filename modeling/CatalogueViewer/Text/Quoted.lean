import CatalogueViewer.Text.CharClass
import CatalogueViewer.Text.EscapedRanges

/-!
# Quoted text in messages

A text as messages show it: between double quotes, with every character spelled out that would not
show as itself.
-/

namespace CatalogueViewer.Text

/-- The character has no visible form of its own. -/
def isInvisible (c : Char) : Bool :=
  if c.toNat < 0x80 then c.toNat < 0x20 || c.toNat == 0x7F else inRanges escapedRanges c.toNat

/-- The spelling of a character between double quotes. -/
def spell (c : Char) : List Char :=
  match c with
  | '\x00' => ['\\', '0']
  | '\t' => ['\\', 't']
  | '\n' => ['\\', 'n']
  | '\r' => ['\\', 'r']
  | '"' => ['\\', '"']
  | '\\' => ['\\', '\\']
  | c =>
    if isInvisible c then ['\\', 'u', '\x7b'] ++ Nat.toDigits 16 c.toNat ++ ['\x7d'] else [c]

def quoted (s : String) : String :=
  String.ofList ('"' :: s.toList.flatMap spell ++ ['"'])

end CatalogueViewer.Text
