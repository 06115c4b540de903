import RepoRouting.Doc.Node
/-!
# Reading JSON text

`Node.ofJson?` reads a JSON text that holds one value, blanks (space, tab, line feed, carriage
return) allowed around its parts, into a document tree:

* an object becomes a mapping with its members sorted by key, a key given twice keeping its
  last value;
* a number without point or exponent is an integer when it fits in 64 bits (unsigned, or
  signed when it is negative), and a fraction otherwise, as is `-0`; a fraction whose nearest
  binary64 value is infinite is refused;
* a string is read with its escapes; a UTF-16 surrogate must stand in a pair, and a control
  character must be escaped.

Numbers follow the JSON grammar: no `+`, no leading zero before more digits, digits on both
sides of a point. At most 127 arrays and objects may be open at once.
-/

namespace RepoRouting.Doc

namespace JsonText

/-- The blanks JSON allows between tokens. -/
def isBlank (c : Char) : Bool := c == ' ' || c == '\t' || c == '\n' || c == '\r'

/-- Drops leading blanks. -/
def skipBlank (cs : List Char) : List Char := cs.dropWhile isBlank

/-- The most arrays and objects that may be open at once. -/
def maxDepth : Nat := 127

/-- The value of a run of decimal digits. -/
def digitsValue (ds : List Char) : Nat := ds.foldl (fun acc d => acc * 10 + (d.toNat - 48)) 0

/-- The value of a hexadecimal digit. -/
def hexValue? (c : Char) : Option Nat :=
  if c.isDigit then some (c.toNat - 48)
  else if 'a' ≤ c && c ≤ 'f' then some (c.toNat - 87)
  else if 'A' ≤ c && c ≤ 'F' then some (c.toNat - 55)
  else none

/-- Reads the four hexadecimal digits of a `\u` escape. -/
def readHex4 : List Char → Option (Nat × List Char)
  | a :: b :: c :: d :: rest => do
    let va ← hexValue? a
    let vb ← hexValue? b
    let vc ← hexValue? c
    let vd ← hexValue? d
    some (((va * 16 + vb) * 16 + vc) * 16 + vd, rest)
  | _ => none

/-- Reads the code point of a `\u` escape after its `u`: a character of the basic plane, or a
high surrogate followed by `\u` and a low one. -/
def readUnicodeEscape (cs : List Char) : Option (Char × List Char) := do
  let (n, rest) ← readHex4 cs
  if 0xDC00 ≤ n && n ≤ 0xDFFF then none
  else if 0xD800 ≤ n && n ≤ 0xDBFF then
    match rest with
    | '\\' :: 'u' :: more =>
      let (low, after) ← readHex4 more
      if 0xDC00 ≤ low && low ≤ 0xDFFF then
        some (Char.ofNat ((n - 0xD800) * 0x400 + (low - 0xDC00) + 0x10000), after)
      else none
    | _ => none
  else some (Char.ofNat n, rest)

/-- The character a one-letter escape stands for. -/
def escapeChar? : Char → Option Char
  | '"' => some '"'
  | '\\' => some '\\'
  | '/' => some '/'
  | 'b' => some '\x08'
  | 'f' => some '\x0c'
  | 'n' => some '\n'
  | 'r' => some '\r'
  | 't' => some '\t'
  | _ => none

/-- Reads the characters of a string up to its closing quote, given the fuel of the text's
length; `acc` holds the characters read so far, last first. -/
def readChars (acc : List Char) : Nat → List Char → Option (String × List Char)
  | 0, _ => none
  | _, [] => none
  | _ + 1, '"' :: rest => some (String.ofList acc.reverse, rest)
  | fuel + 1, '\\' :: 'u' :: rest => do
    let (c, more) ← readUnicodeEscape rest
    readChars (c :: acc) fuel more
  | fuel + 1, '\\' :: e :: rest => do
    let c ← escapeChar? e
    readChars (c :: acc) fuel rest
  | fuel + 1, c :: rest => if c.toNat < 0x20 then none else readChars (c :: acc) fuel rest

/-- Reads a string after its opening quote. -/
def readString (cs : List Char) : Option (String × List Char) := readChars [] (cs.length + 1) cs

/-- The scalar of a number: an integer that fits in 64 bits, or the nearest fraction. -/
def numberScalar (negative : Bool) (digits : Nat) (exponent : Int) (isInteger : Bool) :
    Option Scalar :=
  if isInteger && !negative && digits < UInt64.size then some (.int digits)
  else if isInteger && negative && digits != 0 && digits ≤ UInt64.size / 2 then
    some (.int (-(digits : Int)))
  else
    let x := Number.Binary64.ofDecimal (.finite negative digits exponent)
    if x.isFinite then some (.float x) else none

/-- Reads an optional exponent: `e` or `E`, an optional sign, and at least one digit; gives
whether there was one. -/
def readExponent : List Char → Option (Bool × Int × List Char)
  | e :: rest =>
    if e == 'e' || e == 'E' then
      let (negative, more) := match rest with
        | '-' :: ds => (true, ds)
        | '+' :: ds => (false, ds)
        | ds => (false, ds)
      let ds := more.takeWhile Char.isDigit
      if ds.isEmpty then none
      else
        let v : Int := digitsValue ds
        some (true, if negative then -v else v, more.drop ds.length)
    else some (false, 0, e :: rest)
  | [] => some (false, 0, [])

/-- Reads a number. -/
def readNumber (cs : List Char) : Option (Scalar × List Char) := do
  let (negative, body) := match cs with
    | '-' :: rest => (true, rest)
    | rest => (false, rest)
  let whole := body.takeWhile Char.isDigit
  if whole.isEmpty || (whole.length > 1 && whole.head? == some '0') then none
  let afterWhole := body.drop whole.length
  let (hasPoint, fraction, afterFraction) := match afterWhole with
    | '.' :: more => (true, more.takeWhile Char.isDigit, more.drop (more.takeWhile Char.isDigit).length)
    | more => (false, [], more)
  if hasPoint && fraction.isEmpty then none
  let (hasExponent, exponent, rest) ← readExponent afterFraction
  let s ← numberScalar negative (digitsValue (whole ++ fraction)) (exponent - fraction.length)
    (!hasPoint && !hasExponent)
  some (s, rest)

/-- Puts a member into a list of members sorted by key, replacing one of the same key. -/
def insertMember (k : String) (v : Node) : List (String × Node) → List (String × Node)
  | [] => [(k, v)]
  | (k', v') :: rest =>
    if k == k' then (k, v) :: rest
    else if k < k' then (k, v) :: (k', v') :: rest
    else (k', v') :: insertMember k v rest

mutual
/-- Reads a value after blanks, given fuel and the number of open arrays and objects. -/
def readValue : Nat → Nat → List Char → Option (Node × List Char)
  | 0, _, _ => none
  | fuel + 1, depth, cs =>
    match skipBlank cs with
    | 'n' :: 'u' :: 'l' :: 'l' :: rest => some (.ofScalar .null, rest)
    | 't' :: 'r' :: 'u' :: 'e' :: rest => some (.ofScalar (.bool true), rest)
    | 'f' :: 'a' :: 'l' :: 's' :: 'e' :: rest => some (.ofScalar (.bool false), rest)
    | '"' :: rest => (readString rest).map fun (s, more) => (.ofString s, more)
    | '[' :: rest =>
      if depth ≥ maxDepth then none
      else match skipBlank rest with
        | ']' :: more => some (.ofList [], more)
        | more => (readItems fuel (depth + 1) [] more).map fun (items, after) => (.ofList items, after)
    | '\x7b' :: rest =>
      if depth ≥ maxDepth then none
      else match skipBlank rest with
        | '\x7d' :: more => some (.ofFields [], more)
        | more => (readMembers fuel (depth + 1) [] more).map fun (ms, after) => (.ofFields ms, after)
    | more => (readNumber more).map fun (s, after) => (.ofScalar s, after)

/-- Reads the items of an array after its `[`, up to its `]`; `acc` holds the items read so
far, last first. -/
def readItems : Nat → Nat → List Node → List Char → Option (List Node × List Char)
  | 0, _, _, _ => none
  | fuel + 1, depth, acc, cs =>
    match readValue fuel depth cs with
    | none => none
    | some (v, rest) =>
      match skipBlank rest with
      | ',' :: more => readItems fuel depth (v :: acc) more
      | ']' :: more => some ((v :: acc).reverse, more)
      | _ => none

/-- Reads the members of an object after its opening brace, up to its closing one; `acc`
holds the members read so far, sorted by key. -/
def readMembers : Nat → Nat → List (String × Node) → List Char →
    Option (List (String × Node) × List Char)
  | 0, _, _, _ => none
  | fuel + 1, depth, acc, cs =>
    match skipBlank cs with
    | '"' :: rest =>
      match readString rest with
      | none => none
      | some (k, afterKey) =>
        match skipBlank afterKey with
        | ':' :: afterColon =>
          match readValue fuel depth afterColon with
          | none => none
          | some (v, rest) =>
            match skipBlank rest with
            | ',' :: more => readMembers fuel depth (insertMember k v acc) more
            | '\x7d' :: more => some (insertMember k v acc, more)
            | _ => none
        | _ => none
    | _ => none
end

end JsonText

/-- The document a JSON text holds, if it is one JSON value with nothing but blanks around
it. -/
def Node.ofJson? (text : String) : Option Node :=
  let cs := text.toList
  match JsonText.readValue (cs.length + 2) 0 cs with
  | some (n, rest) => if (JsonText.skipBlank rest).isEmpty then some n else none
  | none => none

end RepoRouting.Doc
