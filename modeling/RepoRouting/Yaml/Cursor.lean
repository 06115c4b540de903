import RepoRouting.Doc.Node

/-!
# Reading position in YAML text

The YAML scanner reads its text one character at a time. A `Cursor` is the text still to
read together with the `Mark` of its first character. The mark counts bytes, lines and
columns (in characters) from zero; a line ends at a line feed, a carriage return (a carriage return followed by
a line feed is one break), a next-line character, or a line or paragraph separator.

Past the end the cursor shows `endChar`, the NUL character. A text with a NUL in it never
reaches the scanner (NUL is a control character, refused before scanning), so `endChar` marks
the end without ambiguity.
-/

namespace RepoRouting.Yaml

open RepoRouting.Doc

/-- The character a cursor shows past the end of its text. -/
def endChar : Char := '\x00'

/-- A line break. -/
def isBreak (c : Char) : Bool :=
  c == '\r' || c == '\n' || c == '\x85' || c == '\u2028' || c == '\u2029'

/-- A space or a tab. -/
def isBlank (c : Char) : Bool := c == ' ' || c == '\t'

/-- A line break or the end of the text. -/
def isBreakOrEnd (c : Char) : Bool := isBreak c || c == endChar

/-- A blank, a line break or the end of the text: what ends a word. -/
def isSpaceOrEnd (c : Char) : Bool := isBlank c || isBreakOrEnd c

/-- A character of an anchor name, a directive name or a tag handle: an ASCII letter or
digit, `_` or `-`. -/
def isWordChar (c : Char) : Bool :=
  ('0' ≤ c && c ≤ '9') || ('A' ≤ c && c ≤ 'Z') || ('a' ≤ c && c ≤ 'z') || c == '_' || c == '-'

/-- An ASCII decimal digit. -/
def isDigit (c : Char) : Bool := '0' ≤ c && c ≤ '9'

/-- The value of a hexadecimal digit, either case. -/
def hexDigit? (c : Char) : Option Nat :=
  if '0' ≤ c && c ≤ '9' then some (c.toNat - '0'.toNat)
  else if 'a' ≤ c && c ≤ 'f' then some (c.toNat - 'a'.toNat + 10)
  else if 'A' ≤ c && c ≤ 'F' then some (c.toNat - 'A'.toNat + 10)
  else none

/-- A character that YAML text may hold: tab, line feed, carriage return, printable ASCII,
next line, and the rest of Unicode but for the C1 controls, surrogates, U+FFFE and U+FFFF. -/
def isPrintable (c : Char) : Bool :=
  let v := c.toNat
  v == 0x09 || v == 0x0A || v == 0x0D || (0x20 ≤ v && v ≤ 0x7E) || v == 0x85 ||
    (0xA0 ≤ v && v ≤ 0xD7FF) || (0xE000 ≤ v && v ≤ 0xFFFD) || (0x10000 ≤ v && v ≤ 0x10FFFF)

/-- The text still to read, with the place of its first character. -/
structure Cursor where
  rest : List Char
  mark : Mark

/-- The cursor at the start of a text. -/
def Cursor.ofList (cs : List Char) : Cursor := ⟨cs, {}⟩

/-- The character `k` places ahead, or `endChar` past the end. -/
def Cursor.at (c : Cursor) (k : Nat) : Char := c.rest.getD k endChar

/-- The character under the cursor. -/
def Cursor.cur (c : Cursor) : Char := c.at 0

/-- Whether the text is read to its end. -/
def Cursor.atEnd (c : Cursor) : Bool := c.rest.isEmpty

/-- Steps over one character of the current line. -/
def Cursor.skip (c : Cursor) : Cursor :=
  match c.rest with
  | [] => c
  | ch :: rest =>
    ⟨rest, { c.mark with index := c.mark.index + ch.utf8Size, column := c.mark.column + 1 }⟩

/-- Steps over `n` characters of the current line. -/
def Cursor.skipN (c : Cursor) : Nat → Cursor
  | 0 => c
  | n + 1 => (c.skip).skipN n

/-- Steps over a line break, if one is under the cursor, to the start of the next line. -/
def Cursor.skipLine (c : Cursor) : Cursor :=
  match c.rest with
  | '\r' :: '\n' :: rest => ⟨rest, ⟨c.mark.index + 2, c.mark.line + 1, 0⟩⟩
  | ch :: rest => if isBreak ch then ⟨rest, ⟨c.mark.index + ch.utf8Size, c.mark.line + 1, 0⟩⟩ else c
  | [] => c

/-- Reads a line break as a scalar keeps it: carriage returns, line feeds and next-line
characters become one line feed; a line or paragraph separator stays itself. -/
def Cursor.readLine (c : Cursor) : String × Cursor :=
  let ch := c.cur
  if ch == '\u2028' || ch == '\u2029' then (ch.toString, c.skipLine)
  else if isBreak ch then ("\n", c.skipLine)
  else ("", c)

/-- Whether a document marker `---` or `...` stands at the start of a line here, followed by a
blank, a break or the end. -/
def Cursor.atDocumentMarker (c : Cursor) : Bool :=
  c.mark.column == 0 &&
    ((c.at 0 == '-' && c.at 1 == '-' && c.at 2 == '-') ||
     (c.at 0 == '.' && c.at 1 == '.' && c.at 2 == '.')) &&
    isSpaceOrEnd (c.at 3)

/-- Reads the characters of the current line that satisfy `p` (`p` never holds of a break). -/
def Cursor.readWhile (p : Char → Bool) (c : Cursor) : String × Cursor :=
  let taken := (c.rest.takeWhile fun ch => p ch && !isBreak ch)
  (String.ofList taken, c.skipN taken.length)

/-- Steps over the characters of the current line that satisfy `p`. -/
def Cursor.skipWhile (p : Char → Bool) (c : Cursor) : Cursor := (c.readWhile p).2

end RepoRouting.Yaml
