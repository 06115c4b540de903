import RepoRouting.Doc.Decode

/-!
# Documents as indented JSON text

`Node.pretty` writes a document tree as JSON text laid out for people: every item of a
sequence and every entry of a mapping on a line of its own, indented by two spaces per level,
a key followed by `: `, and empty collections written `[]` and `{}`. Entries keep the order of
the tree.

A string is written between double quotes; a quote and a backslash are escaped by a backslash,
the control characters backspace, tab, line feed, form feed and carriage return by their
letters, the other characters below U+0020 as `\u00XX` with lowercase hexadecimal digits, and
every other character as it is. A fraction is written in its shortest notation, and one that is
not finite as `null`, which has no other spelling in JSON.
-/

namespace RepoRouting.Doc

/-- The lowercase hexadecimal digit of `d < 16`. -/
def hexDigit (d : Nat) : Char :=
  if d < 10 then Char.ofNat (48 + d) else Char.ofNat (87 + d)

/-- A character as it stands inside a JSON string. -/
def jsonEscape (c : Char) : List Char :=
  if c == '"' then ['\\', '"']
  else if c == '\\' then ['\\', '\\']
  else if c == '\x08' then ['\\', 'b']
  else if c == '\t' then ['\\', 't']
  else if c == '\n' then ['\\', 'n']
  else if c == '\x0c' then ['\\', 'f']
  else if c == '\r' then ['\\', 'r']
  else if c.toNat < 0x20 then ['\\', 'u', '0', '0', hexDigit (c.toNat / 16), hexDigit (c.toNat % 16)]
  else [c]

/-- A string as a JSON string literal. -/
def jsonString (s : String) : String :=
  String.ofList ('"' :: (s.toList.flatMap jsonEscape ++ ['"']))

/-- A scalar as JSON text. -/
def Scalar.jsonText : Scalar → String
  | .null => "null"
  | .bool b => if b then "true" else "false"
  | .int i => toString i
  | .float x => if x.isFinite then Dialect.json.floats.write x else "null"
  | .str s => jsonString s
  | .text s _ _ => jsonString s

/-- A mapping key as JSON text: keys are strings, so a scalar key is quoted as it reads. -/
def keyText : Node → String
  | .scalar (.str s) _ => jsonString s
  | .scalar (.text s _ _) _ => jsonString s
  | .scalar s _ => jsonString s.jsonText
  | _ => jsonString ""

/-- Two spaces for each level of nesting. -/
def indent (depth : Nat) : String := String.ofList (List.replicate (2 * depth) ' ')

mutual
/-- A node as indented JSON text, written at nesting level `depth`. -/
def Node.prettyAt (depth : Nat) : Node → String
  | .scalar s _ => s.jsonText
  | .seq [] _ _ _ => "[]"
  | .seq (n :: ns) _ _ _ =>
    "[\n" ++ indent (depth + 1) ++ n.prettyAt (depth + 1) ++ prettyItems (depth + 1) ns ++ "\n" ++
      indent depth ++ "]"
  | .map [] _ _ _ => "{}"
  | .map ((k, v) :: es) _ _ _ =>
    "\x7b\n" ++ indent (depth + 1) ++ keyText k ++ ": " ++ v.prettyAt (depth + 1) ++
      prettyEntries (depth + 1) es ++ "\n" ++ indent depth ++ "\x7d"
  | .cut => "null"

/-- The further items of a sequence, each after a comma on a line of its own. -/
def prettyItems (depth : Nat) : List Node → String
  | [] => ""
  | n :: ns => ",\n" ++ indent depth ++ n.prettyAt depth ++ prettyItems depth ns

/-- The further entries of a mapping, each after a comma on a line of its own. -/
def prettyEntries (depth : Nat) : List (Node × Node) → String
  | [] => ""
  | (k, v) :: es => ",\n" ++ indent depth ++ keyText k ++ ": " ++ v.prettyAt depth ++ prettyEntries depth es
end

/-- A node as indented JSON text. -/
def Node.pretty (n : Node) : String := n.prettyAt 0

end RepoRouting.Doc
