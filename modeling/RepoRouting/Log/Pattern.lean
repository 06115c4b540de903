/-!
# Value patterns

A log filter may ask a field for a value by a regular expression. `Pattern.wellFormed` says
whether a text is a regular expression that the filter accepts:

* groups `(…)`, `(?:…)`, `(?P<name>…)`, `(?<name>…)` and `(?flags:…)` are closed, and no
  `)` stands without its group; flags are among `imsUuxR`, each once, with at most one `-`
  that is followed by a flag;
* `*`, `+`, `?` and a count `{n}`, `{n,}`, `{n,m}`, `{,m}` (with `n ≤ m`) follow something
  to repeat: not the start of the pattern, of a group or of an alternative;
* a class `[…]` is closed (a `]` right after `[` or `[^` belongs to it), and its ranges go
  upward;
* an escape is a punctuation character, one of `a f t n r v d D s S w W A z`, a code point
  `\x`, `\u`, `\U` in hexadecimal, or a Unicode class `\p`, `\P`; digits (back references)
  and word boundaries (which the matcher cannot follow) are refused.

Unicode class names are not checked against the Unicode tables, and a pattern in
free-spacing mode is read like any other.
-/

namespace RepoRouting.Log

/-- Whether a character is an ASCII hexadecimal digit. -/
def isHexDigit (c : Char) : Bool :=
  c.isDigit || ('a' ≤ c && c ≤ 'f') || ('A' ≤ c && c ≤ 'F')

/-- The value of hexadecimal digits. -/
def hexDigitsValue (ds : List Char) : Nat :=
  ds.foldl (fun acc c =>
    acc * 16 + (if c.isDigit then c.toNat - 48 else if c ≤ 'F' then c.toNat - 55 else c.toNat - 87)) 0

/-- Whether a number is a Unicode scalar value. -/
def isScalar (n : Nat) : Bool := n ≤ 0x10FFFF && !(0xD800 ≤ n && n ≤ 0xDFFF)

/-- What an escape stands for: a single character, a class of characters, or a position. -/
inductive EscapeKind where
  | literal (c : Char)
  | class_
  | position
deriving DecidableEq, Repr

/-- Reads a code point written in hexadecimal after `\x`, `\u` or `\U`: in braces, or
exactly `width` digits. -/
def readCodePoint (width : Nat) : List Char → Option (Char × List Char)
  | '\x7b' :: rest =>
    let ds := rest.takeWhile isHexDigit
    match rest.drop ds.length with
    | '\x7d' :: more =>
      if ds.isEmpty || ds.length > 8 || !isScalar (hexDigitsValue ds) then none
      else some (Char.ofNat (hexDigitsValue ds), more)
    | _ => none
  | cs =>
    let ds := cs.take width
    if ds.length == width && ds.all isHexDigit && isScalar (hexDigitsValue ds) then
      some (Char.ofNat (hexDigitsValue ds), cs.drop width)
    else none

/-- Reads an escape after its backslash; `none` if the escape is refused. -/
def readEscape : List Char → Option (EscapeKind × List Char)
  | [] => none
  | c :: rest =>
    if c.toNat < 0x80 && !c.isAlphanum && c != '<' && c != '>' then some (.literal c, rest)
    else match c with
      | 'a' => some (.literal '\x07', rest)
      | 'f' => some (.literal '\x0c', rest)
      | 't' => some (.literal '\t', rest)
      | 'n' => some (.literal '\n', rest)
      | 'r' => some (.literal '\r', rest)
      | 'v' => some (.literal '\x0b', rest)
      | 'x' => (readCodePoint 2 rest).map fun (ch, more) => (.literal ch, more)
      | 'u' => (readCodePoint 4 rest).map fun (ch, more) => (.literal ch, more)
      | 'U' => (readCodePoint 8 rest).map fun (ch, more) => (.literal ch, more)
      | 'p' | 'P' =>
        match rest with
        | '\x7b' :: more =>
          let name := more.takeWhile (· != '\x7d')
          match more.drop name.length with
          | '\x7d' :: after => if name.isEmpty then none else some (.class_, after)
          | _ => none
        | l :: more => if "LMNPSZC".toList.contains l then some (.class_, more) else none
        | [] => none
      | 'd' | 'D' | 's' | 'S' | 'w' | 'W' => some (.class_, rest)
      | 'A' | 'z' => some (.position, rest)
      | _ => none

/-- The names of the ASCII classes written `[:name:]` inside a class. -/
def asciiClassNames : List String :=
  ["alnum", "alpha", "ascii", "blank", "cntrl", "digit", "graph", "lower", "print", "punct",
    "space", "upper", "word", "xdigit"]

/-- Reads an ASCII class `[:name:]` or `[:^name:]` after its `[`, if one stands there. -/
def readAsciiClass : List Char → Option (List Char)
  | ':' :: rest =>
    let body := match rest with
      | '^' :: more => more
      | more => more
    let name := body.takeWhile (· != ':')
    match body.drop name.length with
    | ':' :: ']' :: after =>
      if asciiClassNames.contains (String.ofList name) then some after else none
    | _ => none
  | _ => none

/-- Reads one member of a class that may start a range: a character or an escaped character;
`none` for the end of the text or a refused escape. The flag says whether the member is a
single character, and so may bound a range. -/
def readClassAtom : List Char → Option (Option Char × List Char)
  | '\\' :: rest =>
    match readEscape rest with
    | some (.literal c, more) => some (some c, more)
    | some (.class_, more) => some (none, more)
    | _ => none
  | c :: rest => some (some c, rest)
  | [] => none

/-- The members of a class after its `[`: an optional `^` dropped, and a `]` right after it
skipped, as it is a member. -/
def classStart (cs : List Char) : List Char :=
  let body := match cs with
    | '^' :: more => more
    | more => more
  match body with
  | ']' :: more => more
  | more => more

/-- Reads the members of a class up to its closing `]`, given the fuel of the text's length;
gives what follows the class. -/
def readClassBody : Nat → List Char → Option (List Char)
  | 0, _ => none
  | _, [] => none
  | _ + 1, ']' :: rest => some rest
  | fuel + 1, '[' :: rest =>
    match readAsciiClass rest with
    | some after => readClassBody fuel after
    | none => do
      let after ← readClassBody fuel (classStart rest)
      readClassBody fuel after
  | fuel + 1, '&' :: '&' :: rest => readClassBody fuel rest
  | fuel + 1, '-' :: '-' :: rest => readClassBody fuel rest
  | fuel + 1, '~' :: '~' :: rest => readClassBody fuel rest
  | fuel + 1, cs => do
    let (first, after) ← readClassAtom cs
    match after with
    | '-' :: more =>
      match more with
      | ']' :: _ => readClassBody fuel after
      | _ => do
        let (last, rest) ← readClassAtom more
        match first, last with
        | some a, some b => if a ≤ b then readClassBody fuel rest else none
        | _, _ => none
    | _ => readClassBody fuel after

/-- The flags a group may set. -/
def flagChars : List Char := "imsUuxR".toList

/-- Reads flags up to `:` or `)`; gives whether a group follows (`:`) and the rest. -/
def readFlags (seen : List Char) (negated : Bool) (lastNegation : Bool) :
    List Char → Option (Bool × List Char)
  | ':' :: rest => if lastNegation then none else some (true, rest)
  | ')' :: rest => if lastNegation || seen.isEmpty && !negated then none else some (false, rest)
  | '-' :: rest => if negated then none else readFlags seen true true rest
  | c :: rest =>
    if flagChars.contains c && !seen.contains c then readFlags (c :: seen) negated false rest
    else none
  | [] => none

/-- Whether a character may stand in a group name. -/
def isGroupNameChar (c : Char) : Bool :=
  c.isAlphanum || c == '_' || c == '.' || c == '[' || c == ']'

/-- Reads a group name up to its `>`. -/
def readGroupName (cs : List Char) : Option (List Char) :=
  let name := cs.takeWhile isGroupNameChar
  match name, cs.drop name.length with
  | c :: _, '>' :: rest => if c.isAlpha || c == '_' then some rest else none
  | _, _ => none

/-- The value of the digits of a repetition count. -/
def countValue (ds : List Char) : Nat := ds.foldl (fun acc d => acc * 10 + (d.toNat - 48)) 0

/-- Whether a repetition count fits in 32 bits. -/
def fitsCount (ds : List Char) : Bool := countValue ds < UInt32.size

/-- Reads a pattern, given the fuel of its length: `depth` groups are open, and `repeatable`
says whether something stands before that a repetition may follow. -/
def readPattern : Nat → Nat → Bool → List Char → Bool
  | 0, _, _, _ => false
  | _, depth, _, [] => depth == 0
  | fuel + 1, depth, repeatable, c :: rest =>
    match c with
    | '(' =>
      match rest with
      | '?' :: 'P' :: '<' :: more | '?' :: '<' :: more =>
        match readGroupName more with
        | some after => readPattern fuel (depth + 1) false after
        | none => false
      | '?' :: more =>
        match readFlags [] false false more with
        | some (true, after) => readPattern fuel (depth + 1) false after
        | some (false, after) => readPattern fuel depth false after
        | none => false
      | _ => readPattern fuel (depth + 1) false rest
    | ')' => depth > 0 && readPattern fuel (depth - 1) true rest
    | '|' => readPattern fuel depth false rest
    | '*' | '+' | '?' =>
      repeatable && readPattern fuel depth true (match rest with
        | '?' :: more => more
        | more => more)
    | '\x7b' =>
      if !repeatable then false
      else
        let low := rest.takeWhile Char.isDigit
        let high := (rest.drop (low.length + 1)).takeWhile Char.isDigit
        match rest.drop low.length with
        | '\x7d' :: more => !low.isEmpty && fitsCount low && readPattern fuel depth true (lazy more)
        | ',' :: more =>
          match more.drop high.length with
          | '\x7d' :: after =>
            (!low.isEmpty || !high.isEmpty) && fitsCount low && fitsCount high &&
              (high.isEmpty || countValue low ≤ countValue high) &&
              readPattern fuel depth true (lazy after)
          | _ => false
        | _ => false
    | '[' =>
      match readClassBody fuel (classStart rest) with
      | some after => readPattern fuel depth true after
      | none => false
    | '\\' =>
      match readEscape rest with
      | some (_, after) => readPattern fuel depth true after
      | none => false
    | _ => readPattern fuel depth true rest
where
  /-- Skips the `?` that makes a repetition lazy. -/
  lazy : List Char → List Char
    | '?' :: more => more
    | more => more

/-- Whether a text is a regular expression that a log filter accepts. -/
def Pattern.wellFormed (s : String) : Bool :=
  readPattern (s.length + 1) 0 false s.toList

end RepoRouting.Log
