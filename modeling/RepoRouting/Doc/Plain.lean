import RepoRouting.Doc.Node
import RepoRouting.Number.Decimal
/-!
# Plain YAML scalars

A plain (unquoted, untagged) YAML scalar means a null, a boolean, an integer or a fraction
when its text has one of their forms, and a string otherwise:

* null: the empty text, `~`, `null`, `Null`, `NULL`;
* boolean: `true`, `True`, `TRUE`, `false`, `False`, `FALSE` (never `yes` or `on`);
* integer: decimal digits with an optional sign, or `0x`, `0o`, `0b` digits with an
  optional sign before the prefix; a leading zero followed by more digits is a string;
* fraction: a decimal number with optional point and exponent, or `.inf`, `-.inf`, `.nan`
  in three spellings; a number too large for a finite binary64 value is a string.

Integers are read at the widths 64 and 128 bits, unsigned first; a wider one is not an
integer.
-/

namespace RepoRouting.Doc

/-- The spellings of null. -/
def isNullWord (s : String) : Bool :=
  s == "~" || s == "null" || s == "Null" || s == "NULL"

/-- The spellings of the two booleans. -/
def boolWord? (s : String) : Option Bool :=
  if s == "true" || s == "True" || s == "TRUE" then some true
  else if s == "false" || s == "False" || s == "FALSE" then some false
  else none

/-- The value of a digit in a radix up to 36. -/
def digitValue (radix : Nat) (c : Char) : Option Nat :=
  let v :=
    if '0' ≤ c && c ≤ '9' then some (c.toNat - '0'.toNat)
    else if 'a' ≤ c && c ≤ 'z' then some (c.toNat - 'a'.toNat + 10)
    else if 'A' ≤ c && c ≤ 'Z' then some (c.toNat - 'A'.toNat + 10)
    else none
  v.bind fun d => if d < radix then some d else none

/-- The value of a nonempty digit string. -/
def digitsValue (radix : Nat) (cs : List Char) : Option Nat :=
  if cs.isEmpty then none
  else cs.foldlM (fun acc c => (digitValue radix c).map (acc * radix + ·)) 0

/-- Reads an integer in a radix with an optional sign, as the standard integer readers do:
a `-` only when `signed`; the value must lie in `[lo, hi]`. -/
def readRadix (radix : Nat) (signed : Bool) (lo hi : Int) (s : String) : Option Int :=
  let v : Option Int :=
    match s.toList with
    | '+' :: rest => (digitsValue radix rest).map Int.ofNat
    | '-' :: rest => if signed then (digitsValue radix rest).map fun n => -(Int.ofNat n) else none
    | cs => (digitsValue radix cs).map Int.ofNat
  v.bind fun i => if lo ≤ i && i ≤ hi then some i else none

/-- Digits after a leading zero: a string, not a number. -/
def digitsButNotNumber (s : String) : Bool :=
  let cs := match s.toList with
    | '-' :: r => r
    | '+' :: r => r
    | r => r
  match cs with
  | '0' :: rest => !rest.isEmpty && rest.all Char.isDigit
  | _ => false

/-- Whether a text starts with a sign. -/
def startsWithSign (s : String) : Bool :=
  s.startsWith "+" || s.startsWith "-"

/-- An unsigned integer of at most `hi`, in any of the four radix forms. -/
def unsignedOf? (hi : Int) (s : String) : Option Int :=
  let unpositive := if s.startsWith "+" then s.drop 1 |>.toString else s
  let prefixed (pre : String) (radix : Nat) : Option Int :=
    if unpositive.startsWith pre then
      let rest := (unpositive.drop pre.length).toString
      if startsWithSign rest then none else readRadix radix false 0 hi rest
    else none
  match prefixed "0x" 16 with
  | some v => some v
  | none =>
  match prefixed "0o" 8 with
  | some v => some v
  | none =>
  match prefixed "0b" 2 with
  | some v => some v
  | none =>
    if startsWithSign unpositive || digitsButNotNumber s then none
    else readRadix 10 false 0 hi unpositive

/-- A signed integer in `[lo, hi]`, in any of the four radix forms. -/
def signedOf? (lo hi : Int) (s : String) : Option Int :=
  let unpositive? : Option String :=
    if s.startsWith "+" then
      let u := (s.drop 1).toString
      if startsWithSign u then none else some u
    else some s
  match unpositive? with
  | none => none
  | some unpositive =>
    let prefixed (pre : String) (radix : Nat) : Option Int :=
      let pos : Option Int :=
        if unpositive.startsWith pre then
          let rest := (unpositive.drop pre.length).toString
          if startsWithSign rest then none else readRadix radix true lo hi rest
        else none
      match pos with
      | some v => some v
      | none =>
        if s.startsWith ("-" ++ pre) then
          readRadix radix true lo hi ("-" ++ (s.drop (pre.length + 1)).toString)
        else none
    match prefixed "0x" 16 with
    | some v => some v
    | none =>
    match prefixed "0o" 8 with
    | some v => some v
    | none =>
    match prefixed "0b" 2 with
    | some v => some v
    | none =>
      if digitsButNotNumber s then none else readRadix 10 true lo hi unpositive

/-- The largest value of an unsigned 64-bit word, `2 ^ 64 - 1`. -/
def u64Max : Int := 18446744073709551615

/-- The least value of a signed 64-bit word, `-2 ^ 63`. -/
def i64Min : Int := -9223372036854775808

/-- An integer as a plain scalar gives it, with whether it needed 128 bits. -/
def integerOf? (s : String) : Option (Int × Bool) :=
  match unsignedOf? u64Max s with
  | some v => some (v, false)
  | none =>
  match signedOf? i64Min (-i64Min - 1) s with
  | some v => some (v, false)
  | none =>
  match unsignedOf? (Int.pow 2 128 - 1) s with
  | some v => some (v, true)
  | none => (signedOf? (-Int.pow 2 127) (Int.pow 2 127 - 1) s).map fun v => (v, true)

/-- A fraction in the forms a plain scalar allows: an optional `+` (not before another sign),
then `.inf`, `.Inf` or `.INF`, or `-.inf` in those spellings, or `.nan`, `.NaN`, `.NAN`, or a
decimal number whose nearest binary64 value is finite. -/
def floatOf? (s : String) : Option Number.Binary64 :=
  let unpositive? : Option String :=
    if s.startsWith "+" then
      let u := (s.drop 1).toString
      if startsWithSign u then none else some u
    else some s
  match unpositive? with
  | none => none
  | some u =>
    if u == ".inf" || u == ".Inf" || u == ".INF" then some (.infinite false)
    else if s == "-.inf" || s == "-.Inf" || s == "-.INF" then some (.infinite true)
    else if s == ".nan" || s == ".NaN" || s == ".NAN" then some .nan
    else match Number.Decimal.read? u with
      | some d =>
        let x := Number.Binary64.ofDecimal d
        if x.isFinite then some x else none
      | none => none

/-- The tag of booleans. -/
def boolTag : String := "tag:yaml.org,2002:bool"
/-- The tag of integers. -/
def intTag : String := "tag:yaml.org,2002:int"
/-- The tag of fractions. -/
def floatTag : String := "tag:yaml.org,2002:float"
/-- The tag of null. -/
def nullTag : String := "tag:yaml.org,2002:null"

/-- The typed value of an untagged plain scalar. -/
def resolvePlain (s : String) : Scalar :=
  if s.isEmpty || isNullWord s then .null
  else match boolWord? s with
  | some b => .bool b
  | none =>
  match integerOf? s with
  | some (i, _) => .int i
  | none =>
    match (if digitsButNotNumber s then none else floatOf? s) with
    | some x => .float x
    | none => .str s

/-- The typed value of a scalar, as a reader that takes any value sees it; a scalar whose
tag asks for a type that its text does not have is refused with the reason. -/
def Scalar.typed : Scalar → Except (String × String) Scalar
  | .text s plain tag =>
    match tag with
    | some t =>
      if t == boolTag then
        match boolWord? s with
        | some b => .ok (.bool b)
        | none => .error (s, "a boolean")
      else if t == intTag then
        match integerOf? s with
        | some (i, _) => .ok (.int i)
        | none => .error (s, "an integer")
      else if t == floatTag then
        match floatOf? s with
        | some x => .ok (.float x)
        | none => .error (s, "a float")
      else if t == nullTag then
        if isNullWord s then .ok .null else .error (s, "null")
      else if t.startsWith "!" && plain then .ok (resolvePlain s)
      else .ok (.str s)
    | none => .ok (if plain then resolvePlain s else .str s)
  | s => .ok s

end RepoRouting.Doc
