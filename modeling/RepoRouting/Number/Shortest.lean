import RepoRouting.Number.Binary64
/-!
# Shortest decimal digits of a binary64 value

`Binary64.shortest` gives, for a finite positive value, the decimal number with the fewest
significant digits that reads back as that value: the digits `d` and the power of ten `k`
of the last one, so that `d · 10 ^ k` lies in the value's rounding interval, with no trailing
zero in `d`.

The rounding interval holds the reals nearer to the value than to its neighbours; its ends
belong to it when the significand is even, as a tie then rounds to the value. Below a power of
two the neighbour is nearer, so the interval is narrower on that side. The digits are searched
one precision after another: at `p` digits the two decimal neighbours of the value on the grid
of `p` significant digits are tried, and of two that lie in the interval the nearer wins (a tie
goes up). Seventeen digits always find one.
-/

namespace RepoRouting.Number

namespace Binary64

/-- The number of decimal digits of a natural number (one for zero). -/
def decimalDigits (n : Nat) : Nat := (Nat.toDigits 10 n).length

/-- The smallest `j` from `j` on with `m · 10 ^ j ≥ d`, searching at most `fuel` steps. -/
def firstPowerAbove (m d : Nat) (j : Nat) : Nat → Nat
  | 0 => j
  | fuel + 1 => if m * Nat.pow 10 j ≥ d then j else firstPowerAbove m d (j + 1) fuel

/-- The power of ten of the leading digit of a positive value `m · 2 ^ e`: the `E` with
`10 ^ E ≤ m · 2 ^ e < 10 ^ (E + 1)`. -/
def leadingPower (m : Nat) (e : Int) : Int :=
  if 0 ≤ e then (decimalDigits (m <<< e.toNat) : Int) - 1
  else
    let d := 1 <<< (-e).toNat
    if m ≥ d then (decimalDigits (m / d) : Int) - 1
    else -(firstPowerAbove m d 1 400 : Int)

/-- Drops the trailing zeros of `d · 10 ^ k` into the exponent. -/
def stripZeros (d : Nat) (k : Int) : Nat → Nat × Int
  | 0 => (d, k)
  | fuel + 1 => if d != 0 && d % 10 == 0 then stripZeros (d / 10) (k + 1) fuel else (d, k)

/-- The digits at precision `p` of a positive value `m · 2 ^ e`, if a decimal of `p` digits lies
in its rounding interval: the nearer of the two neighbours on the grid, a tie going up. -/
def digitsAt (m : Nat) (e : Int) (top : Int) (p : Nat) : Option (Nat × Int) :=
  let k : Int := top - p + 1
  let s2 : Nat := (2 - e).toNat
  let s10 : Nat := (-k).toNat
  let scale10 := Nat.pow 10 s10
  let v := (m <<< (e + s2).toNat) * scale10
  let g := Nat.pow 10 (k + s10).toNat <<< s2
  let above := (1 <<< (e - 1 + s2).toNat) * scale10
  let below := if m == 1 <<< 52 && e > minExponent then (1 <<< (e - 2 + s2).toNat) * scale10
    else above
  let inside (x : Nat) : Bool :=
    if m % 2 == 0 then v ≤ x + below && x ≤ v + above
    else v < x + below && x < v + above
  let lo := v / g
  let lowIn := inside (lo * g)
  let highIn := inside ((lo + 1) * g)
  if lowIn && highIn then
    if v - lo * g < (lo + 1) * g - v then some (lo, k) else some (lo + 1, k)
  else if lowIn then some (lo, k)
  else if highIn then some (lo + 1, k)
  else none

/-- The first precision from `p` on at which digits are found, trying at most `fuel`. -/
def searchDigits (m : Nat) (e : Int) (top : Int) (p : Nat) : Nat → Nat × Int
  | 0 => (m, e)
  | fuel + 1 =>
    match digitsAt m e top p with
    | some (d, k) => stripZeros d k (decimalDigits d)
    | none => searchDigits m e top (p + 1) fuel

/-- The shortest digits of a positive value `m · 2 ^ e` (`m > 0`): `d` and `k` with
`d · 10 ^ k` in its rounding interval, `d` as short as can be and without trailing zeros. -/
def shortest (m : Nat) (e : Int) : Nat × Int :=
  searchDigits m e (leadingPower m e) 1 17

end Binary64

end RepoRouting.Number
