import RepoRouting.Unicode.Table
import RepoRouting.Unicode.NormalizationData
/-!
# Normalization form C

The canonical composition of a text (Unicode normalization form C): every character is
replaced by its full canonical decomposition, every run of characters with nonzero combining
classes is put in the order of their classes, and then each character is composed with the
last starter before it when nothing between them blocks it and the pair has a primary
composite. Hangul syllables decompose and compose by arithmetic.

A text is in normalization form C when composing it changes nothing (`isNfc`).
-/

namespace RepoRouting.Unicode

/-- The combining class table. -/
def combiningClassTable : Array (Entry Nat) :=
  parseTable (fun s => s.toNat?.getD 0) combiningClassText

/-- The canonical combining class of a character: zero for starters. -/
def combiningClass (c : Char) : Nat := (lookup combiningClassTable c.toNat).getD 0

/-- The decomposition table. -/
def decompositionTable : Array (Entry (List Char)) :=
  parseTable (fun s => (s.splitOn " ").map fun h => Char.ofNat (hexValue h)) decompositionText

/-- The composite table, by the key of a pair. -/
def compositionTable : Array (Entry Char) :=
  parseTable (fun s => Char.ofNat (hexValue s)) compositionText

/-- The first Hangul syllable; the syllables follow in the order of their leading consonant,
vowel and trailing consonant. -/
def hangulFirst : Nat := 0xAC00

/-- The number of Hangul syllables. -/
def hangulCount : Nat := 11172

/-- The first leading consonant jamo. -/
def leadFirst : Nat := 0x1100

/-- The first vowel jamo. -/
def vowelFirst : Nat := 0x1161

/-- The code point before the first trailing consonant jamo, which stands for none. -/
def trailBefore : Nat := 0x11A7

/-- The full canonical decomposition of a character; the character itself if it has none. -/
def decomposeChar (c : Char) : List Char :=
  let n := c.toNat
  if hangulFirst ≤ n && n < hangulFirst + hangulCount then
    let s := n - hangulFirst
    let lead := Char.ofNat (leadFirst + s / 588)
    let vowel := Char.ofNat (vowelFirst + s % 588 / 28)
    if s % 28 == 0 then [lead, vowel] else [lead, vowel, Char.ofNat (trailBefore + s % 28)]
  else (lookup decompositionTable n).getD [c]

/-- The primary composite of two characters, if they have one. -/
def composePair (a b : Char) : Option Char :=
  let x := a.toNat
  let y := b.toNat
  if leadFirst ≤ x && x < leadFirst + 19 && vowelFirst ≤ y && y < vowelFirst + 21 then
    some (Char.ofNat (hangulFirst + ((x - leadFirst) * 21 + (y - vowelFirst)) * 28))
  else if hangulFirst ≤ x && x < hangulFirst + hangulCount && (x - hangulFirst) % 28 == 0 &&
      trailBefore < y && y < trailBefore + 28 then
    some (Char.ofNat (x + (y - trailBefore)))
  else lookup compositionTable (x * 0x110000 + y)

/-- Sorts a run of characters by their combining classes, keeping the order of equal ones. -/
def sortByClass (run : List Char) : List Char :=
  run.mergeSort fun a b => combiningClass a ≤ combiningClass b

/-- Puts every run of characters with nonzero combining classes in the order of their
classes; `run` holds the characters of the current run. -/
def orderRuns (run : List Char) : List Char → List Char
  | [] => sortByClass run
  | c :: rest =>
    if combiningClass c == 0 then sortByClass run ++ c :: orderRuns [] rest
    else orderRuns (run ++ [c]) rest

/-- The canonical order of a text. -/
def canonicalOrder (cs : List Char) : List Char := orderRuns [] cs

/-- Composes a text in canonical order onto `out`: `starter` is the position in `out` of
the last starter, and `last` the class of the last character written after it, if any. A
character is blocked from the starter when that class is not below its own. -/
def composeOnto (out : Array Char) (starter : Option Nat) (last : Option Nat) :
    List Char → Array Char
  | [] => out
  | c :: rest =>
    let cc := combiningClass c
    let reachable : Bool := match last with
      | some l => l < cc
      | none => true
    let fused := match starter with
      | some i => if reachable then (out[i]?).bind fun s => composePair s c else none
      | none => none
    match fused, starter with
    | some p, some i => composeOnto (out.setIfInBounds i p) starter last rest
    | _, _ =>
      if cc == 0 then composeOnto (out.push c) (some out.size) none rest
      else composeOnto (out.push c) starter (some cc) rest

/-- The normalization form C of a text. -/
def nfc (cs : List Char) : List Char :=
  (composeOnto #[] none none (canonicalOrder (cs.flatMap decomposeChar))).toList

/-- Whether a text is in normalization form C. -/
def isNfc (cs : List Char) : Bool := nfc cs == cs

end RepoRouting.Unicode
