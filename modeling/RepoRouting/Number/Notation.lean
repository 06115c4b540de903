import RepoRouting.Number.Shortest
/-!
# Writing binary64 values

A finite value is written with its shortest digits (`Binary64.shortest`), in one of two layouts:

* positional, every digit before or after the point, with `.0` after a whole number
  (`100.0`, `0.001`, `-0.0`);
* scientific, the first digit, the others after a point if there are any, then `e` and the
  power of ten of the first digit (`1e+16`, `1.5e-07`).

A `Notation` fixes the range of powers of ten of the first digit that are written positionally,
the least width of an exponent and whether a positive one carries `+`, and the words for the
infinities and not-a-number.
-/

namespace RepoRouting.Number

/-- How binary64 values are written. -/
structure Notation where
  /-- The least power of ten of the first digit written positionally, if there is one. -/
  leastPositional : Option Int
  /-- The greatest power of ten of the first digit written positionally, if there is one. -/
  greatestPositional : Option Int
  /-- The least number of digits of an exponent; shorter ones are padded with zeros. -/
  exponentWidth : Nat
  /-- Whether a positive exponent is written with a `+`. -/
  exponentPlus : Bool
  /-- The word for an infinity, after a `-` when it is negative. -/
  infinity : String
  /-- The word for not-a-number. -/
  nan : String

namespace Notation

/-- `n` zeros. -/
def zeros (n : Nat) : String := String.ofList (List.replicate n '0')

/-- Digits `d` scaled by `10 ^ k`, positionally, with `.0` after a whole number. -/
def positional (d : String) (k : Int) : String :=
  let n : Int := d.length
  if k ≥ 0 then d ++ zeros k.toNat ++ ".0"
  else if -k < n then
    let whole := (n + k).toNat
    (d.take whole).toString ++ "." ++ (d.drop whole).toString
  else "0." ++ zeros (-k - n).toNat ++ d

/-- An exponent with its sign and at least `width` digits. -/
def exponentText (f : Notation) (e : Int) : String :=
  let digits := toString e.natAbs
  let sign := if e < 0 then "-" else if f.exponentPlus then "+" else ""
  sign ++ zeros (f.exponentWidth - digits.length) ++ digits

/-- Digits `d` whose first digit has the power of ten `lead`, in scientific notation. -/
def scientific (f : Notation) (d : String) (lead : Int) : String :=
  let mantissa := if d.length == 1 then d else (d.take 1).toString ++ "." ++ (d.drop 1).toString
  mantissa ++ "e" ++ f.exponentText lead

/-- Whether the power of ten of a first digit is written positionally. -/
def isPositional (f : Notation) (lead : Int) : Bool :=
  f.leastPositional.all (· ≤ lead) && f.greatestPositional.all (lead ≤ ·)

/-- A value as text. -/
def write (f : Notation) : Binary64 → String
  | .nan => f.nan
  | .infinite negative => (if negative then "-" else "") ++ f.infinity
  | .finite negative m e =>
    let sign := if negative then "-" else ""
    if m == 0 then sign ++ "0.0"
    else
      let (digits, k) := Binary64.shortest m e
      let d := toString digits
      let lead := k + d.length - 1
      sign ++ (if f.isPositional lead then positional d k else f.scientific d lead)

end Notation

end RepoRouting.Number
