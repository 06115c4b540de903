import RepoRouting.Unicode.Table
import RepoRouting.Unicode.UppercaseData
/-!
# Uppercase

The full Unicode uppercase of a text: every character is replaced by its uppercase, which
may be several characters, without regard to its neighbours.
-/

namespace RepoRouting.Unicode

/-- How a character changes in uppercase: shifted by an offset, or replaced. -/
inductive CaseChange where
  | shift (offset : Int)
  | replace (image : List Char)
deriving Repr, Inhabited

/-- Reads a change from its table text. -/
def parseCaseChange (s : String) : CaseChange :=
  match s.toList with
  | '+' :: rest => .shift (Int.ofNat (hexValue (String.ofList rest)))
  | '-' :: rest => .shift (-(Int.ofNat (hexValue (String.ofList rest))))
  | _ => .replace ((s.splitOn " ").map fun h => Char.ofNat (hexValue h))

/-- The uppercase table. -/
def uppercaseTable : Array (Entry CaseChange) := parseTable parseCaseChange uppercaseText

/-- The uppercase of one character. -/
def upperChar (c : Char) : List Char :=
  match lookup uppercaseTable c.toNat with
  | some (.shift d) => [Char.ofNat (c.toNat + d).toNat]
  | some (.replace image) => image
  | none => [c]

/-- The uppercase of a text. -/
def upper (s : String) : String :=
  String.ofList (s.toList.flatMap upperChar)

end RepoRouting.Unicode
