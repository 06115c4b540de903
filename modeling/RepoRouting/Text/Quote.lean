import RepoRouting.Unicode.Table
import RepoRouting.Unicode.UnprintableData
/-!
# Quoted text in messages

Error messages quote a text between double quotes. Inside, a backslash and a double quote
get a backslash, NUL, tab, carriage return and line feed get their short escapes, and a
character that does not print on its own (a control or format character, a separator
other than the space, a private-use or unassigned code point, or a mark that extends the
grapheme before it) is written as `\u{…}` with its lowercase hexadecimal number.
-/

namespace RepoRouting.Text

/-- The table of code points that do not print on their own. -/
def unprintableTable : Array (Unicode.Entry Unit) :=
  Unicode.parseTable (fun _ => ()) Unicode.unprintableText

/-- Whether a character is written as a numbered escape. -/
def isHidden (c : Char) : Bool := (Unicode.lookup unprintableTable c.toNat).isSome

/-- Lowercase hexadecimal digits of a number, without leading zeros. -/
def hexText (n : Nat) : String :=
  String.ofList (Nat.toDigits 16 n)

/-- One character inside a quoted text. -/
def escapeChar (c : Char) : List Char :=
  if c == '\\' then ['\\', '\\']
  else if c == '"' then ['\\', '"']
  else if c == '\x00' then ['\\', '0']
  else if c == '\t' then ['\\', 't']
  else if c == '\r' then ['\\', 'r']
  else if c == '\n' then ['\\', 'n']
  else if isHidden c then "\\u\x7b".toList ++ (hexText c.toNat).toList ++ ['\x7d']
  else [c]

/-- A text between double quotes, escaped. -/
def quoted (s : String) : String :=
  String.ofList ('"' :: (s.toList.flatMap escapeChar ++ ['"']))

end RepoRouting.Text
