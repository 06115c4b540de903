/-!
# Punycode

The Bootstring encoding of Unicode labels into ASCII (RFC 3492) with the Punycode
parameters: base 36, thresholds 1 and 26, skew 38, damping 700, initial bias 72 and
initial code point 128. Decoding fails on a digit that is not one, on a value that does
not fit in 32 bits, and on a code point that is not a character.
-/

namespace RepoRouting.Url.Punycode

/-- The base of the variable-length integers. -/
def base : Nat := 36

/-- The digit threshold at position `k` for bias `bias`. -/
def threshold (k bias : Nat) : Nat :=
  if k ≤ bias then 1 else if k ≥ bias + 26 then 26 else k - bias

/-- Divides by `base - 1` until the delta is small, one step per unit of fuel. -/
def adaptLoop : Nat → Nat → Nat → Nat × Nat
  | 0, delta, k => (delta, k)
  | fuel + 1, delta, k =>
    if delta > (35 * 26) / 2 then adaptLoop fuel (delta / 35) (k + base) else (delta, k)

/-- The bias after a code point is coded. -/
def adapt (delta numPoints : Nat) (first : Bool) : Nat :=
  let delta := if first then delta / 700 else delta / 2
  let delta := delta + delta / numPoints
  let (delta, k) := adaptLoop 16 delta 0
  k + (36 * delta) / (delta + 38)

/-- The value of a digit: letters first, then decimal digits. -/
def digitValue (c : Char) : Option Nat :=
  if 'a' ≤ c && c ≤ 'z' then some (c.toNat - 97)
  else if 'A' ≤ c && c ≤ 'Z' then some (c.toNat - 65)
  else if '0' ≤ c && c ≤ '9' then some (c.toNat - 22)
  else none

/-- The digit of a value below 36. -/
def digitChar (d : Nat) : Char :=
  if d < 26 then Char.ofNat (97 + d) else Char.ofNat (22 + d)

/-- The largest value of a 32-bit word. -/
def wordMax : Nat := UInt32.size - 1

/-- Reads one variable-length integer: returns the new `i` and the rest of the input. -/
def readDelta (bias : Nat) : Nat → List Char → Nat → Nat → Nat → Option (Nat × List Char)
  | 0, _, _, _, _ => none
  | _ + 1, [], _, _, _ => none
  | fuel + 1, c :: rest, i, w, k => do
    let d ← digitValue c
    let i := i + d * w
    if i > wordMax then none
    else
      let t := threshold k bias
      if d < t then some (i, rest)
      else
        let w := w * (base - t)
        if w > wordMax then none else readDelta bias fuel rest i w (k + base)

/-- Inserts the coded code points one by one, a unit of fuel per code point. -/
def decodeLoop : Nat → List Char → List Char → Nat → Nat → Nat → Option (List Char)
  | 0, _, _, _, _, _ => none
  | _ + 1, [], out, _, _, _ => some out
  | fuel + 1, input, out, n, i, bias => do
    let (i', rest) ← readDelta bias 64 input i 1 base
    let len := out.length + 1
    let bias := adapt (i' - i) len (i == 0)
    let n := n + i' / len
    if n > wordMax then none
    else
      let pos := i' % len
      if n ≥ 0xD800 && n ≤ 0xDFFF || n > 0x10FFFF then none
      else
        decodeLoop fuel rest (out.take pos ++ [Char.ofNat n] ++ out.drop pos) n (pos + 1) bias

/-- Decodes a Punycode label (without its `xn--` prefix). -/
def decode (label : List Char) : Option (List Char) :=
  let (basic, coded) :=
    match (label.reverse.span (· != '-')) with
    | (_, []) => ([], label)
    | (revCoded, _ :: revBasic) => (revBasic.reverse, revCoded.reverse)
  if basic.any (fun c => c.toNat ≥ 0x80) then none
  else decodeLoop (coded.length + 1) coded basic 0x80 0 72

/-- Writes one variable-length integer. -/
def writeDelta (bias : Nat) : Nat → Nat → Nat → List Char
  | 0, _, _ => []
  | fuel + 1, q, k =>
    let t := threshold k bias
    if q < t then [digitChar q]
    else digitChar (t + (q - t) % (base - t)) :: writeDelta bias fuel ((q - t) / (base - t)) (k + base)

/-- Codes the code points of `input` at least `n`, in increasing order, a unit of fuel per
round. -/
def encodeLoop (input : List Nat) (basicCount : Nat) :
    Nat → List Char → Nat → Nat → Nat → Nat → List Char
  | 0, out, _, _, _, _ => out
  | fuel + 1, out, n, delta, bias, h =>
    if h ≥ input.length then out
    else
      let m := (input.filter (· ≥ n)).foldl min (input.foldl max 0)
      let delta := delta + (m - n) * (h + 1)
      let (out, delta, bias, h) := input.foldl (fun (out, delta, bias, h) c =>
        if c < m then (out, delta + 1, bias, h)
        else if c == m then
          (out ++ writeDelta bias 64 delta base, 0, adapt delta (h + 1) (h == basicCount), h + 1)
        else (out, delta, bias, h)) (out, delta, bias, h)
      encodeLoop input basicCount fuel out (m + 1) (delta + 1) bias h

/-- Encodes a label: its ASCII characters first, a `-` if there are any, then the coded
rest. -/
def encode (label : List Char) : List Char :=
  let input := label.map Char.toNat
  let basic := label.filter (·.toNat < 0x80)
  let start := if basic.isEmpty then [] else basic ++ ['-']
  encodeLoop input basic.length (input.length + 1) start 0x80 0 72 basic.length

end RepoRouting.Url.Punycode
