import RepoRouting.Unicode.Table
import RepoRouting.Unicode.WidthData
import RepoRouting.Unicode.LetterData

/-!
# Display width

How many columns of a terminal a character takes: none for a control character, a combining
mark or a format character, two for a wide or fullwidth character, one for any other. The
width of a text is the sum of the widths of its characters.

`isLetterOrNumber` says whether a character is alphabetic or a number, in any script.
-/

namespace RepoRouting.Text

/-- The widths of characters beyond ASCII that are not one column. -/
def widthTable : Array (Unicode.Entry Nat) :=
  Unicode.parseTable (fun s => s.toNat?.getD 1) Unicode.widthText

/-- The columns a character takes. -/
def charColumns (c : Char) : Nat :=
  if c.toNat < 0x20 || c.toNat == 0x7f then 0
  else if c.toNat < 0x80 then 1
  else (Unicode.lookup widthTable c.toNat).getD 1

/-- The columns a text takes. -/
def columns (s : String) : Nat := s.toList.foldl (fun n c => n + charColumns c) 0

/-- The table of letters and numbers beyond ASCII. -/
def letterTable : Array (Unicode.Entry Unit) :=
  Unicode.parseTable (fun _ => ()) Unicode.letterOrNumberText

/-- Whether a character is a letter or a number. -/
def isLetterOrNumber (c : Char) : Bool :=
  if c.toNat < 0x80 then c.isAlphanum else (Unicode.lookup letterTable c.toNat).isSome

end RepoRouting.Text
