import RepoRouting.Unicode.Table
import RepoRouting.Unicode.LineBreakData

/-!
# Line break opportunities

Where a line of text may be broken, by the line breaking algorithm of Unicode: every
character has a line breaking class, and rules on the classes around a position decide
whether a break is allowed there. The rules are taken in their order, the first that applies
deciding:

* never at the start of the text; always after a hard line break (a carriage return only
  when no line feed follows); never before a hard line break, a space or a zero width space;
  always after a zero width space and the spaces that follow it;
* never after a zero width joiner; a combining mark after a base character belongs to it, and
  the pair is seen as the base (a mark with no base is alphabetic);
* never around a word joiner, after glue, or before glue unless after a space or a hyphen;
  never before closing punctuation, an exclamation, an infix separator or a slash;
* never after opening punctuation, nor between a quotation and opening punctuation, closing
  punctuation and a nonstarter, or two dashes that break both ways, spaces between them or
  not; always after spaces otherwise;
* never around a quotation; always around a contingent break; never before a break-after
  character, a hyphen or a nonstarter, nor after a break-before character, nor after a Hebrew
  letter and a hyphen, nor between a slash and a Hebrew letter, nor before an inseparable;
* never inside a number, between letters and digits, between a prefix or postfix and what it
  marks, inside a Hangul syllable block, between letters, between an infix separator and a
  letter, between letters or digits and narrow opening punctuation, or between a narrow
  closing parenthesis and letters or digits; never inside a pair of regional indicators,
  nor between an emoji base and its modifier;
* everywhere else a break is allowed.

`breaks` gives the positions of a text where a break is allowed, counted in characters; the
end of the text is not among them.
-/

namespace RepoRouting.Text

/-- The line breaking class of a character. -/
inductive BreakClass where
  | mandatory
  | carriageReturn
  | lineFeed
  | nextLine
  | space
  | zeroWidthSpace
  | zeroWidthJoiner
  | combiningMark
  | wordJoiner
  | glue
  | breakAfter
  | breakBefore
  | breakBoth
  | hyphen
  | contingent
  | closePunctuation
  | closeParenthesis
  | exclamation
  | inseparable
  | nonstarter
  /-- Opening punctuation; wide opening punctuation does not hold on to a letter before it. -/
  | openPunctuation (wide : Bool)
  | quotation
  | infixSeparator
  | numeric
  | numberSuffix
  | numberPrefix
  | symbol
  | alphabetic
  | hebrewLetter
  | ideographic
  | emojiBase
  | emojiModifier
  | hangulLV
  | hangulLVT
  | jamoL
  | jamoV
  | jamoT
  | regionalIndicator
deriving DecidableEq, Repr, Inhabited

namespace BreakClass

/-- The class of a two-letter code of the class table. -/
def ofCode (s : String) : BreakClass :=
  match s with
  | "BK" => .mandatory | "CR" => .carriageReturn | "LF" => .lineFeed | "NL" => .nextLine
  | "SP" => .space | "ZW" => .zeroWidthSpace | "ZJ" => .zeroWidthJoiner
  | "CM" => .combiningMark | "WJ" => .wordJoiner | "GL" => .glue | "BA" => .breakAfter
  | "BB" => .breakBefore | "B2" => .breakBoth | "HY" => .hyphen | "CB" => .contingent
  | "CL" => .closePunctuation | "CP" => .closeParenthesis | "EX" => .exclamation
  | "IN" => .inseparable | "NS" => .nonstarter | "OP" => .openPunctuation false
  | "OW" => .openPunctuation true | "QU" => .quotation | "IS" => .infixSeparator
  | "NU" => .numeric | "PO" => .numberSuffix | "PR" => .numberPrefix | "SY" => .symbol
  | "HL" => .hebrewLetter | "ID" => .ideographic | "EB" => .emojiBase
  | "EM" => .emojiModifier | "H2" => .hangulLV | "H3" => .hangulLVT | "JL" => .jamoL
  | "JV" => .jamoV | "JT" => .jamoT | "RI" => .regionalIndicator
  | _ => .alphabetic

/-- The class of an ASCII character. -/
def ofAscii (c : Char) : BreakClass :=
  match c with
  | '\t' => .breakAfter
  | '\n' => .lineFeed
  | '\x0b' | '\x0c' => .mandatory
  | '\r' => .carriageReturn
  | ' ' => .space
  | '!' | '?' => .exclamation
  | '"' | '\'' => .quotation
  | '$' | '+' | '\\' => .numberPrefix
  | '%' => .numberSuffix
  | '(' | '[' | '\x7b' => .openPunctuation false
  | ')' | ']' => .closeParenthesis
  | '\x7d' => .closePunctuation
  | ',' | '.' | ':' | ';' => .infixSeparator
  | '-' => .hyphen
  | '/' => .symbol
  | '|' => .breakAfter
  | c =>
    if c.toNat < 0x20 || c.toNat == 0x7f then .combiningMark
    else if c.isDigit then .numeric
    else .alphabetic

/-- The table of classes beyond ASCII. -/
def table : Array (Unicode.Entry BreakClass) :=
  Unicode.parseTable ofCode Unicode.lineBreakText

/-- The line breaking class of a character. A Hangul syllable is of the two-jamo kind when it
has no final consonant. -/
def ofChar (c : Char) : BreakClass :=
  if c.toNat < 0x80 then ofAscii c
  else if 0xAC00 ≤ c.toNat && c.toNat ≤ 0xD7A3 then
    if (c.toNat - 0xAC00) % 28 == 0 then .hangulLV else .hangulLVT
  else (Unicode.lookup table c.toNat).getD .alphabetic

/-- Whether a class is opening punctuation. -/
def isOpen : BreakClass → Bool
  | .openPunctuation _ => true
  | _ => false

/-- Whether a class is a letter: alphabetic or Hebrew. -/
def isLetter (c : BreakClass) : Bool := c == .alphabetic || c == .hebrewLetter

/-- Whether a class is one of the Hangul classes. -/
def isHangul (c : BreakClass) : Bool :=
  c == .jamoL || c == .jamoV || c == .jamoT || c == .hangulLV || c == .hangulLVT

/-- Whether a class is a hard line break. -/
def isHard (c : BreakClass) : Bool :=
  c == .mandatory || c == .carriageReturn || c == .lineFeed || c == .nextLine

/-- Whether nothing may break before a class, after anything: a word joiner, or closing
punctuation, an exclamation, an infix separator or a slash. -/
def keepsBefore (b : BreakClass) : Bool :=
  b == .wordJoiner || b == .closePunctuation || b == .closeParenthesis || b == .exclamation ||
    b == .infixSeparator || b == .symbol

/-- Whether a break is allowed after spaces that follow `a` (none at the start of the text)
and before `b`. -/
def afterSpaces (a : Option BreakClass) (b : BreakClass) : Bool :=
  if b.keepsBefore then false
  else
    match a with
    | some (.openPunctuation _) => false
    | some .quotation => !b.isOpen
    | some .closePunctuation | some .closeParenthesis => b != .nonstarter
    | some .breakBoth => b != .breakBoth
    | _ => true

/-- Whether the digits rule keeps a pair together: a number with its prefix, postfix,
separators and brackets. -/
def inNumber (a b : BreakClass) : Bool :=
  match a, b with
  | .closePunctuation, .numberSuffix | .closeParenthesis, .numberSuffix => true
  | .closePunctuation, .numberPrefix | .closeParenthesis, .numberPrefix => true
  | .numeric, .numberSuffix | .numeric, .numberPrefix => true
  | .numberSuffix, .openPunctuation _ | .numberPrefix, .openPunctuation _ => true
  | .numberSuffix, .numeric | .numberPrefix, .numeric | .hyphen, .numeric => true
  | .infixSeparator, .numeric | .numeric, .numeric | .symbol, .numeric => true
  | _, _ => false

/-- Whether a break is allowed between `a` and `b` with nothing between them.
`hebrewHyphen` says that `a` is a hyphen or break-after character that follows a Hebrew
letter; `oddIndicators` that `a` ends an odd run of regional indicators. -/
def between (a b : BreakClass) (hebrewHyphen oddIndicators : Bool) : Bool :=
  if a == .wordJoiner || b == .wordJoiner || a == .glue then false
  else if b == .glue && !(a == .breakAfter || a == .hyphen) then false
  else if b.keepsBefore then false
  else if a.isOpen then false
  else if a == .quotation || b == .quotation then false
  else if (a == .closePunctuation || a == .closeParenthesis) && b == .nonstarter then false
  else if a == .breakBoth && b == .breakBoth then false
  else if a == .contingent || b == .contingent then true
  else if b == .breakAfter || b == .hyphen || b == .nonstarter || a == .breakBefore then false
  else if hebrewHyphen then false
  else if a == .symbol && b == .hebrewLetter then false
  else if b == .inseparable then false
  else if (a.isLetter && b == .numeric) || (a == .numeric && b.isLetter) then false
  else if a == .numberPrefix && (b == .ideographic || b == .emojiBase || b == .emojiModifier) then false
  else if (a == .ideographic || a == .emojiBase || a == .emojiModifier) && b == .numberSuffix then false
  else if (a == .numberPrefix || a == .numberSuffix) && b.isLetter then false
  else if a.isLetter && (b == .numberPrefix || b == .numberSuffix) then false
  else if inNumber a b then false
  else if a == .jamoL && (b == .jamoL || b == .jamoV || b == .hangulLV || b == .hangulLVT) then false
  else if (a == .jamoV || a == .hangulLV) && (b == .jamoV || b == .jamoT) then false
  else if (a == .jamoT || a == .hangulLVT) && b == .jamoT then false
  else if a.isHangul && b == .numberSuffix then false
  else if a == .numberPrefix && b.isHangul then false
  else if a.isLetter && b.isLetter then false
  else if a == .infixSeparator && b.isLetter then false
  else if (a.isLetter || a == .numeric) && b == .openPunctuation false then false
  else if a == .closeParenthesis && (b.isLetter || b == .numeric) then false
  else if a == .regionalIndicator && b == .regionalIndicator then !oddIndicators
  else if a == .emojiBase && b == .emojiModifier then false
  else true

end BreakClass

/-- What the rules need to know of the text before a position. -/
structure BreakState where
  /-- The class of the previous character, if there is one. -/
  previous : Option BreakClass := none
  /-- The class of the last character that is not a space, with marks seen as their base. -/
  base : Option BreakClass := none
  /-- Whether spaces follow that character. -/
  spaced : Bool := false
  /-- Whether the base is a hyphen or break-after character after a Hebrew letter. -/
  hebrewHyphen : Bool := false
  /-- Whether the base ends an odd run of regional indicators. -/
  oddIndicators : Bool := false
deriving Repr, Inhabited

namespace BreakState

open BreakClass

/-- Whether a break is allowed before a character of class `b`. -/
def allows (s : BreakState) (b : BreakClass) : Bool :=
  match s.previous with
  | none => false
  | some p =>
    if p == .mandatory || p == .lineFeed || p == .nextLine then true
    else if p == .carriageReturn then b != .lineFeed
    else if b.isHard || b == .space || b == .zeroWidthSpace then false
    else if s.base == some .zeroWidthSpace then true
    else if p == .zeroWidthJoiner then false
    else if (b == .combiningMark || b == .zeroWidthJoiner) && !(p.isHard || p == .space) then false
    else
      let b := if b == .combiningMark || b == .zeroWidthJoiner then .alphabetic else b
      if s.spaced then afterSpaces s.base b
      else
        match s.base with
        | some a => between a b s.hebrewHyphen s.oddIndicators
        | none => true

/-- The state after a character of class `b` that is a base of its own. -/
def settle (s : BreakState) (b : BreakClass) : BreakState :=
  let b' := if b == .combiningMark || b == .zeroWidthJoiner then .alphabetic else b
  let joined := !s.spaced
  { previous := some b
    base := some b'
    spaced := false
    hebrewHyphen := joined && s.base == some .hebrewLetter && (b' == .hyphen || b' == .breakAfter)
    oddIndicators :=
      b' == .regionalIndicator && !(joined && s.base == some .regionalIndicator && s.oddIndicators) }

/-- The state after a character of class `b`: a space extends the spaces after the base, a
mark after a base belongs to it, and any other character is a new base. -/
def push (s : BreakState) (b : BreakClass) : BreakState :=
  if b == .space then { s with previous := some b, spaced := true }
  else
    match s.previous with
    | some p =>
      if (b == .combiningMark || b == .zeroWidthJoiner) &&
          !(p.isHard || p == .space || p == .zeroWidthSpace) then
        { s with previous := some b }
      else s.settle b
    | none => s.settle b

end BreakState

/-- The positions, from `pos` on, at which a break is allowed in the characters `cs`. -/
def breaksFrom (s : BreakState) (pos : Nat) : List Char → List Nat
  | [] => []
  | c :: cs =>
    let b := BreakClass.ofChar c
    let rest := breaksFrom (s.push b) (pos + 1) cs
    if s.allows b then pos :: rest else rest

/-- The positions, counted in characters, at which a line may be broken; the end of the text
is not among them. -/
def breaks (cs : List Char) : List Nat := breaksFrom {} 0 cs

end RepoRouting.Text
