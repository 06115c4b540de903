import RepoRouting.Number.Decimal
/-!
# Binary64 numbers

The values of the IEEE 754 binary64 format, with exact arithmetic behind each operation: a
finite value is `significand · 2 ^ exponent` with a sign, the significand below `2 ^ 53` and
the exponent at least `-1074`; beyond them stand the two infinities and not-a-number.

Every operation computes its exact result as a fraction and rounds it once
(`Binary64.ofRatio`): to the nearest value of the format, a tie to the one with an even
significand, and to an infinity when it reaches `2 ^ 1024` after rounding.
-/

namespace RepoRouting.Number

/-- A binary64 value. -/
inductive Binary64 where
  | finite (negative : Bool) (significand : Nat) (exponent : Int)
  | infinite (negative : Bool)
  | nan
deriving DecidableEq, Repr, Inhabited

namespace Binary64

/-- The least exponent of the format: the weight of the last digit of the least subnormal. -/
def minExponent : Int := -1074

/-- The greatest exponent of the last digit of a finite value. -/
def maxExponent : Int := 971

/-- A fraction scaled by a power of two: `num / den · 2 ^ e`, as a fraction. -/
def scaleRatio (num den : Nat) (e : Int) : Nat × Nat :=
  if 0 ≤ e then (num <<< e.toNat, den) else (num, den <<< (-e).toNat)

/-- The power of two of the binade of a positive fraction: the `b` with
`2 ^ b ≤ num / den < 2 ^ (b + 1)`. -/
def binade (num den : Nat) : Int :=
  let k : Int := (Nat.log2 num : Int) - (Nat.log2 den : Int)
  let (n, d) := scaleRatio den 1 k
  -- `num / den` is at least `2 ^ k` when `num ≥ den · 2 ^ k`
  if num * d ≥ n then k else k - 1

/-- The binary64 value nearest to `num / den`, with a sign: a tie goes to the even
significand, and a value that rounds to `2 ^ 1024` or beyond is infinite. -/
def ofRatio (negative : Bool) (num den : Nat) : Binary64 :=
  if num == 0 || den == 0 then .finite negative 0 0
  else
    let e := max (binade num den - 52) minExponent
    let (n, d) := scaleRatio num den (-e)
    let q := n / d
    let r := n % d
    let up := 2 * r > d || (2 * r == d && q % 2 == 1)
    let q' := if up then q + 1 else q
    let (sig, exp) := if q' == 1 <<< 53 then (1 <<< 52, e + 1) else (q', e)
    if exp > maxExponent then .infinite negative else .finite negative sig exp

/-- A finite value as a fraction with a sign: the numerator and the denominator. -/
def toRatio (negative : Bool) (significand : Nat) (exponent : Int) : Bool × Nat × Nat :=
  let (n, d) := scaleRatio significand 1 exponent
  (negative, n, d)

/-- The value of a natural number. -/
def ofNat (n : Nat) : Binary64 := ofRatio false n 1

/-- The binary64 value nearest to a decimal number. A value of at least `10 ^ 310` is
infinite and one below `10 ^ -330` is zero without computing them: both lie far beyond the
format's range, and their exponents may be too large to spell out. -/
def ofDecimal : Decimal → Binary64
  | .nan => .nan
  | .infinite negative => .infinite negative
  | .finite negative digits exponent =>
    if digits == 0 then .finite negative 0 0
    else
      -- the value lies below `10 ^ magnitude` and at or above a tenth of it
      let magnitude : Int := ((Nat.toDigits 10 digits).length : Int) + exponent
      if magnitude > 310 then .infinite negative
      else if magnitude < -330 then .finite negative 0 0
      else if 0 ≤ exponent then ofRatio negative (digits * Nat.pow 10 exponent.toNat) 1
      else ofRatio negative digits (Nat.pow 10 (-exponent).toNat)

/-- Whether a value is finite. -/
def isFinite : Binary64 → Bool
  | .finite .. => true
  | _ => false

/-- The sum of two values. -/
def add : Binary64 → Binary64 → Binary64
  | .nan, _ | _, .nan => .nan
  | .infinite a, .infinite b => if a == b then .infinite a else .nan
  | .infinite a, _ | _, .infinite a => .infinite a
  | .finite sa ma ea, .finite sb mb eb =>
    let e := min ea eb
    let x := ma <<< (ea - e).toNat
    let y := mb <<< (eb - e).toNat
    let (negative, n) :=
      if sa == sb then (sa, x + y)
      else if x ≥ y then (sa, x - y) else (sb, y - x)
    -- an exact zero from opposite signs is positive
    let negative := if n == 0 then sa && sb else negative
    let (num, den) := scaleRatio n 1 e
    ofRatio negative num den

/-- The quotient of two values. -/
def div : Binary64 → Binary64 → Binary64
  | .nan, _ | _, .nan => .nan
  | .infinite _, .infinite _ => .nan
  | .infinite a, .finite b _ _ => .infinite (a != b)
  | .finite a _ _, .infinite b => .finite (a != b) 0 0
  | .finite sa ma ea, .finite sb mb eb =>
    if mb == 0 then (if ma == 0 then .nan else .infinite (sa != sb))
    else
      let (_, n1, d1) := toRatio sa ma ea
      let (_, n2, d2) := toRatio sb mb eb
      ofRatio (sa != sb) (n1 * d2) (d1 * n2)

/-- Compares two finite values by their magnitudes. -/
def compareMagnitude (ma : Nat) (ea : Int) (mb : Nat) (eb : Int) : Ordering :=
  let e := min ea eb
  compare (ma <<< (ea - e).toNat) (mb <<< (eb - e).toNat)

/-- Compares two values that are numbers; not-a-number compares with nothing. Zeros of
either sign are equal. -/
def compare? : Binary64 → Binary64 → Option Ordering
  | .nan, _ | _, .nan => none
  | .infinite a, .infinite b => some (if a == b then .eq else if a then .lt else .gt)
  | .infinite a, _ => some (if a then .lt else .gt)
  | _, .infinite b => some (if b then .gt else .lt)
  | .finite sa ma ea, .finite sb mb eb =>
    if ma == 0 && mb == 0 then some .eq
    else if ma == 0 then some (if sb then .gt else .lt)
    else if mb == 0 then some (if sa then .lt else .gt)
    else if sa != sb then some (if sa then .lt else .gt)
    else
      let c := compareMagnitude ma ea mb eb
      some (if sa then c.swap else c)

/-- Whether one value is above another. -/
def gt (x y : Binary64) : Bool := compare? x y == some .gt

end Binary64

end RepoRouting.Number
