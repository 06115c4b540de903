import RepoRouting.Unicode.Table
import RepoRouting.Unicode.IdnaMappingData
import RepoRouting.Unicode.BidiClassData
import RepoRouting.Unicode.MarkData
import RepoRouting.Unicode.JoiningTypeData
/-!
# Unicode properties for domain names

The properties that IDNA processing consults, read from their tables: the IDNA status and
mapping of a code point, its bidirectional class, whether it is a mark or a virama, and its
joining type.
-/

namespace RepoRouting.Unicode

/-- What IDNA processing does with a code point. -/
inductive IdnaStatus where
  | valid
  | disallowed
  | ignored
  | mapped (image : List Char)
deriving Repr, Inhabited

/-- Reads a status from its table text. -/
def parseIdnaStatus (s : String) : IdnaStatus :=
  match s.toList with
  | 'V' :: _ => .valid
  | 'I' :: _ => .ignored
  | 'M' :: rest =>
    .mapped (((String.ofList rest).splitOn " ").map fun h => Char.ofNat (hexValue h))
  | _ => .disallowed

/-- The IDNA mapping table. -/
def idnaTable : Array (Entry IdnaStatus) := parseTable parseIdnaStatus idnaMappingText

/-- The IDNA status of a character; a code point outside the table is disallowed. -/
def idnaStatus (c : Char) : IdnaStatus := (lookup idnaTable c.toNat).getD .disallowed

/-- The bidirectional class table. -/
def bidiTable : Array (Entry String) := parseTable id bidiClassText

/-- The bidirectional class of a character; left-to-right where the table has none. -/
def bidiClass (c : Char) : String := (lookup bidiTable c.toNat).getD "L"

/-- The table of marks and viramas. -/
def markTable : Array (Entry String) := parseTable id markText

/-- Whether a character is a combining mark. -/
def isMark (c : Char) : Bool := (lookup markTable c.toNat).isSome

/-- Whether a character is a virama. -/
def isVirama (c : Char) : Bool := lookup markTable c.toNat == some "V"

/-- The joining type table. -/
def joiningTable : Array (Entry String) := parseTable id joiningTypeText

/-- The joining type of a character: `L`, `R`, `D`, `T`, `C`, or `U` for non-joining. -/
def joiningType (c : Char) : String := (lookup joiningTable c.toNat).getD "U"

end RepoRouting.Unicode
