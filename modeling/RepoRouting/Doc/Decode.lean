import RepoRouting.Doc.Plain
import RepoRouting.Number.Notation
import RepoRouting.Text.Quote
/-!
# Reading typed values from documents

A `Reader` turns nodes into values of the library's types and reports the first thing it
cannot read, in the words of the serde data model: `invalid type: integer `5`, expected a
string`, `missing field `url``, `duplicate field `type``.

Values come in one of three forms (`Form`), and each reads by its own rules:

* YAML text, as written. A text takes any scalar; a boolean or a number takes a plain scalar
  spelled as one, whatever its tag; an optional value is absent for an empty or null plain
  scalar (a `!!null` tag on another word is an error); a structure takes a mapping, and an
  empty plain scalar stands for an empty mapping or sequence. What a refused scalar is
  called follows its tag: `!!bool`, `!!int`, `!!float` and `!!null` ask for their type, and a
  local tag (`!name`) on a plain scalar does not change what it is.
* JSON values, typed. A structure may also be given as an array of its fields in order.
* Gathered values: the entries of a mapping kept aside for fields that stand beside others.
  They were typed when gathered (a local tag is refused then, as it would name a variant),
  a structure may be given as a sequence of its fields in order, and a key may be a field's
  position.

An error takes the path and place of the innermost node whose reading produced it. Errors
raised after a node was read (a policy word that is not one, a missing or repeated field)
take the place of the enclosing mapping. Gathered values have no places, so that the
mapping they were gathered from supplies it.

Mappings are read entry by entry, in document order: each key is checked for repetition
before its value is read, and missing fields are reported after the last entry. Fields given
in order are read in order: a missing field with no default is reported at its position, and
elements left over after the last field are reported last.
-/

namespace RepoRouting.Doc

/-- What a reader found where it expected something else. -/
inductive Found where
  | bool (b : Bool)
  | int (i : Int)
  | wideInt (i : Int)
  | float (x : Number.Binary64)
  | str (s : String)
  | unit
  | seq
  | map
deriving Repr, Inhabited

/-- How a document format names values in its errors. -/
structure Dialect where
  /-- The name of a missing value. -/
  unitWord : String
  /-- How fractions are written. -/
  floats : Number.Notation

/-- JSON values: a missing value is `null`; a fraction is positional from `1e-4` up to below
`1e16`, and scientific with a signed exponent of at least two digits beyond (`1e+16`,
`1e-05`). -/
def Dialect.json : Dialect :=
  ⟨"null", ⟨some (-4), some 15, 2, true, "inf", "NaN"⟩⟩

/-- YAML text: a missing value is the `unit value`; a fraction is always positional, and the
words for the other values are `inf` and `NaN`. -/
def Dialect.yaml : Dialect :=
  ⟨"unit value", ⟨none, none, 1, false, "inf", "NaN"⟩⟩

/-- How an error names what was found. -/
def Found.describe (d : Dialect) : Found → String
  | .bool b => "boolean `" ++ toString b ++ "`"
  | .int i => "integer `" ++ toString i ++ "`"
  | .wideInt i => "integer `" ++ toString i ++ "` as " ++ (if i < 0 then "i128" else "u128")
  | .float x => "floating point `" ++ d.floats.write x ++ "`"
  | .str s => "string " ++ Text.quoted s
  | .unit => d.unitWord
  | .seq => "sequence"
  | .map => "map"

/-- Why a document could not be read. -/
inductive DecodeError where
  /-- A rule of the data model failed; `place` is the path and mark it is reported at,
  once known. -/
  | rule (message : String) (place : Option (Path × Mark))
  /-- The text broke off before the reader had what it needed. -/
  | broken
deriving Repr, Inhabited

/-- Gives an error without a place the place `(p, m)`. -/
def DecodeError.at (p : Path) (m : Mark) : DecodeError → DecodeError
  | .rule msg none => .rule msg (some (p, m))
  | e => e

/-- The message of a rule, as YAML errors show it: the path unless it is the root, the
message, and the line and column unless the place is the very start. -/
def DecodeError.located (msg : String) : Option (Path × Mark) → String
  | none => msg
  | some (p, m) =>
    let pathText := if p == .root then "" else p.render ++ ": "
    let markText := if m.isOrigin then "" else " at " ++ m.render
    pathText ++ msg ++ markText

/-- The form in which a reader's values were given. -/
inductive Form where
  /-- YAML text as written, each node with its place. -/
  | text
  /-- Typed JSON values. -/
  | json
  /-- Typed values gathered from a mapping, without places. -/
  | gathered
deriving DecidableEq, Repr, Inhabited

/-- What a reader reads: values of a form, named in errors as a dialect names them. -/
structure Reader where
  dialect : Dialect
  form : Form

/-- The reader of JSON values. -/
def Reader.json : Reader := ⟨.json, .json⟩

/-- The reader of YAML text. -/
def Reader.yaml : Reader := ⟨.yaml, .text⟩

/-- The reader of values gathered for fields that stand beside others: same dialect. -/
def Reader.gathered (r : Reader) : Reader := { r with form := .gathered }

/-- Whether errors take the place of the node being read. -/
def Reader.placed (r : Reader) : Bool := r.form != .gathered

/-- A structure as readers see it: its name in errors (`struct Proxy`), its fields in order,
each with whether it must be given (it has no default), and whether its fields may be given
in order by a sequence (not when other fields stand beside its own). -/
structure Shape where
  name : String
  fields : List (String × Bool)
  positional : Bool := true

/-- The count of fields of a shape as errors give it: `struct Proxy with 6 elements`. -/
def Shape.elements (s : Shape) : String :=
  let n := s.fields.length
  s.name ++ " with " ++ toString n ++ (if n == 1 then " element" else " elements")

/-- A failure with a message. -/
def fail (msg : String) : Except DecodeError α := .error (.rule msg none)

/-- `invalid type: …, expected …`. -/
def invalidType (d : Dialect) (f : Found) (expected : String) : String :=
  "invalid type: " ++ f.describe d ++ ", expected " ++ expected

/-- `invalid value: …, expected …`. -/
def invalidValue (d : Dialect) (f : Found) (expected : String) : String :=
  "invalid value: " ++ f.describe d ++ ", expected " ++ expected

/-- `invalid length …, expected …`. -/
def invalidLength (n : Nat) (expected : String) : String :=
  "invalid length " ++ toString n ++ ", expected " ++ expected

/-- `missing field `name``. -/
def missingField (name : String) : String := "missing field `" ++ name ++ "`"

/-- `duplicate field `name``. -/
def duplicateField (name : String) : String := "duplicate field `" ++ name ++ "`"

/-- The error of a tag that names a variant where any value may stand. -/
def variantTagRefused : String := "untagged and internally tagged enums do not support enum input"

/-- Runs a step of reading at node place `(p, m)`. -/
def Reader.within (r : Reader) (p : Path) (m : Mark) (x : Except DecodeError α) :
    Except DecodeError α :=
  if r.placed then x.mapError (DecodeError.at p m) else x

/-- What a typed scalar is, as errors name it. -/
def Scalar.found : Scalar → Found
  | .null => .unit
  | .bool b => .bool b
  | .int i => if i64Min ≤ i && i ≤ u64Max then .int i else .wideInt i
  | .float x => .float x
  | .str s => .str s
  | .text s _ _ => .str s

/-- Refuses a node: `invalid type` with what it holds, or the node's own malformation. -/
def Reader.refuse (r : Reader) (p : Path) (n : Node) (expected : String) :
    Except DecodeError α :=
  match n with
  | .cut => .error .broken
  | .scalar s m =>
    r.within p m <| match s.typed with
      | .ok t => fail (invalidType r.dialect t.found expected)
      | .error (text, what) => fail (invalidValue r.dialect (.str text) what)
  | .seq _ _ m _ => r.within p m (fail (invalidType r.dialect .seq expected))
  | .map _ _ m _ => r.within p m (fail (invalidType r.dialect .map expected))

/-- Reads a text. Every YAML scalar is read as the characters it was written with. -/
def Reader.string (r : Reader) (expected : String) (p : Path) (n : Node) :
    Except DecodeError String :=
  match n with
  | .scalar (.str s) _ => .ok s
  | .scalar (.text s _ _) _ => .ok s
  | n => r.refuse p n expected

/-- Reads a boolean: a typed one, or a plain YAML scalar spelled as one, whatever its tag. -/
def Reader.bool (r : Reader) (p : Path) (n : Node) : Except DecodeError Bool :=
  match n with
  | .scalar (.bool b) _ => .ok b
  | .scalar (.text s true _) _ =>
    match boolWord? s with
    | some b => .ok b
    | none => r.refuse p n "a boolean"
  | n => r.refuse p n "a boolean"

/-- Checks that an integer is a port number. -/
def Reader.portValue (r : Reader) (p : Path) (m : Mark) (i : Int) : Except DecodeError UInt16 :=
  if 0 ≤ i && i < 65536 then .ok i.toNat.toUInt16
  else r.within p m (fail (invalidValue r.dialect (.int i) "u16"))

/-- Reads an unsigned 16-bit number: a typed integer, or a plain YAML scalar spelled as an
unsigned 64-bit integer, whatever its tag. -/
def Reader.u16 (r : Reader) (p : Path) (n : Node) : Except DecodeError UInt16 :=
  match n with
  | .scalar (.int i) m => r.portValue p m i
  | .scalar (.text s true _) m =>
    match unsignedOf? u64Max s with
    | some i => r.portValue p m i
    | none => r.refuse p n "u16"
  | n => r.refuse p n "u16"

/-- Reads an optional value. A typed null is absent, and so is an untagged plain YAML scalar
that is empty or a null word; a plain scalar tagged `!!null` must be a null word, and is then
absent. Anything else is present. -/
def Reader.optional (r : Reader) (read : Path → Node → Except DecodeError α) (p : Path)
    (n : Node) : Except DecodeError (Option α) :=
  match n with
  | .cut => .error .broken
  | .scalar .null _ => .ok none
  | .scalar (.text s true (some t)) _ =>
    if t == nullTag then
      if isNullWord s then .ok none else fail (invalidValue r.dialect (.str s) "null")
    else (read p n).map some
  | .scalar (.text s true none) _ =>
    if s.isEmpty || isNullWord s then .ok none else (read p n).map some
  | n => (read p n).map some

/-- Whether a node is an empty plain YAML scalar, which reads as an empty sequence or
mapping. -/
def Node.isEmptyPlain : Node → Bool
  | .scalar (.text s true _) _ => s.isEmpty
  | _ => false

/-- Reads the items of a sequence in order, with their indices in the path. -/
def readItems (read : Path → Node → Except DecodeError α) (p : Path) :
    Nat → List Node → Except DecodeError (List α)
  | _, [] => .ok []
  | i, n :: rest => do
    let a ← read (.index p i) n
    let as ← readItems read p (i + 1) rest
    .ok (a :: as)

/-- Reads a sequence. -/
def Reader.list (r : Reader) (read : Path → Node → Except DecodeError α) (p : Path)
    (n : Node) : Except DecodeError (List α) :=
  match n with
  | .seq items _ m closed =>
    r.within p m do
      let as ← readItems read p 0 items
      if closed then .ok as else .error .broken
  | n => if r.form == .text && n.isEmptyPlain then .ok [] else r.refuse p n "a sequence"

/-- The field a key names, if it names one of the shape. A YAML key names the field its text
spells, and a JSON key is a text. A gathered key is a text, or the position of a field (a
position past the last field names none); any other value is refused. -/
def Reader.key (r : Reader) (shape : Shape) (p : Path) (k : Node) :
    Except DecodeError (Option String) :=
  match r.form, k with
  | _, .scalar (.str s) _ => .ok (some s)
  | .text, .scalar (.text s _ _) _ => .ok (some s)
  | .gathered, .scalar (.int i) _ =>
    if 0 ≤ i && i ≤ u64Max then .ok ((shape.fields[i.toNat]?).map (·.1))
    else r.refuse p k "field identifier"
  | _, k => r.refuse p k "field identifier"

/-- The path of the value under a key. -/
def childPath (p : Path) (k : Node) : Path :=
  match k with
  | .scalar (.str s) _ => .key p s
  | .scalar (.text s _ _) _ => .key p s
  | _ => .unknown p

/-- Reads the entries of a mapping in order into a draft; entries whose key names no field
of the shape are passed over. -/
def readEntries (r : Reader) (shape : Shape) (p : Path)
    (step : σ → String → Path → Node → Except DecodeError σ) :
    σ → List (Node × Node) → Except DecodeError σ
  | d, [] => .ok d
  | d, (k, v) :: rest => do
    match ← r.key shape p k with
    | some name =>
      let d' ← step d name (childPath p k) v
      readEntries r shape p step d' rest
    | none => readEntries r shape p step d rest

/-- What a reader expects of the elements left over after the last field: `3 elements in
sequence` for gathered values, `fewer elements in array` for JSON. -/
def Reader.leftOver (r : Reader) (fields : Nat) : String :=
  if r.form == .json then "fewer elements in array"
  else toString fields ++ (if fields == 1 then " element" else " elements") ++ " in sequence"

/-- Reads fields given in order: the `i`-th element is the `i`-th field. A field with no
element is an error if it must be given; elements beyond the last field are an error once
every field is read. -/
def readPositions (r : Reader) (shape : Shape) (p : Path)
    (step : σ → String → Path → Node → Except DecodeError σ) :
    σ → Nat → List (String × Bool) → List Node → Except DecodeError σ
  | d, _, [], [] => .ok d
  | _, i, [], extra => fail (invalidLength (i + extra.length) (r.leftOver i))
  | d, i, (_, required) :: fs, [] =>
    if required then fail (invalidLength i shape.elements)
    else readPositions r shape p step d (i + 1) fs []
  | d, i, (name, _) :: fs, n :: ns => do
    let d' ← step d name (.index p i) n
    readPositions r shape p step d' (i + 1) fs ns

/-- Reads a structure: `step` takes each field into the draft, `finish` checks the draft once
all are read. A mapping gives fields by key; typed values may give them in order as a
sequence, and an empty plain YAML scalar is an empty mapping. -/
def Reader.record (r : Reader) (shape : Shape) (p : Path) (n : Node) (init : σ)
    (step : σ → String → Path → Node → Except DecodeError σ)
    (finish : σ → Except DecodeError α) : Except DecodeError α :=
  match n with
  | .map entries _ m closed =>
    r.within p m do
      let d ← readEntries r shape p step init entries
      if closed then finish d else .error .broken
  | .seq items _ m closed =>
    if r.form != .text && shape.positional then
      r.within p m do
        let d ← readPositions r shape p step init 0 shape.fields items
        if closed then finish d else .error .broken
    else r.refuse p n shape.name
  | n =>
    if r.form == .text && n.isEmptyPlain then r.within p n.mark (finish init)
    else r.refuse p n shape.name

/-- Stores a field read for the first time; a field seen before is a duplicate. -/
def setOnce (name : String) (old : Option α) (read : Except DecodeError α) :
    Except DecodeError (Option α) :=
  match old with
  | some _ => fail (duplicateField name)
  | none => read.map some

/-- A required field: its value, or `missing field`. -/
def required (name : String) : Option α → Except DecodeError α
  | some a => .ok a
  | none => fail (missingField name)

/-- Whether a tag names a variant: a local tag, or the bare `!`. -/
def isVariantTag : Option String → Bool
  | some t => t.startsWith "!"
  | none => false

/-- The typed form of a node, as a reader that takes any value gathers it. YAML scalars are
resolved; a node with a local tag is refused, as is an integer wider than 64 bits; keys are
gathered at the path of their mapping. Nothing keeps its place. -/
def Reader.gather (r : Reader) (p : Path) : Node → Except DecodeError Node
  | .cut => .error .broken
  | .scalar s m =>
    match s with
    | .text _ _ tag =>
      if isVariantTag tag then r.within p m (fail variantTagRefused)
      else match s.typed with
        | .ok t => typedLeaf p m t
        | .error (text, what) => r.within p m (fail (invalidValue r.dialect (.str text) what))
    | t => typedLeaf p m t
  | .seq items tag m closed =>
    if isVariantTag tag then r.within p m (fail variantTagRefused)
    else do
      let items' ← gatherItems 0 items
      if closed then .ok (.seq items' none m true) else .error .broken
  | .map entries tag m closed =>
    if isVariantTag tag then r.within p m (fail variantTagRefused)
    else do
      let entries' ← gatherEntries entries
      if closed then .ok (.map entries' none m true) else .error .broken
where
  /-- Keeps a typed scalar that fits the typed values. -/
  typedLeaf (p : Path) (m : Mark) (t : Scalar) : Except DecodeError Node :=
    match t.found with
    | .wideInt i => r.within p m (fail (invalidType r.dialect (.wideInt i) "any value"))
    | _ => .ok (.scalar t m)
  /-- Gathers the items of a sequence. -/
  gatherItems : Nat → List Node → Except DecodeError (List Node)
    | _, [] => .ok []
    | i, n :: rest => do
      let n' ← r.gather (.index p i) n
      let rest' ← gatherItems (i + 1) rest
      .ok (n' :: rest')
  /-- Gathers the entries of a mapping. -/
  gatherEntries : List (Node × Node) → Except DecodeError (List (Node × Node))
    | [] => .ok []
    | (k, v) :: rest => do
      let k' ← r.gather p k
      let v' ← r.gather (childPath p k) v
      let rest' ← gatherEntries rest
      .ok ((k', v') :: rest')

end RepoRouting.Doc
