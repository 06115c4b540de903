/-!
# Decimal numbers as text

The decimal form a binary number is read from: an optional sign, then `inf`, `infinity` or
`nan` in any case, or digits with at most one point and at least one digit, optionally
followed by `e` or `E`, an optional sign and at least one digit of exponent (`1.`, `.5`,
`+2e-3`). Nothing else may stand around it, blanks included.

`Decimal.read?` gives the value such a text denotes exactly: its sign, its digits as one
natural number, and the power of ten they are scaled by.
-/

namespace RepoRouting.Number

/-- A number written in decimal: finite (`digits · 10 ^ exponent`, with a sign), infinite,
or not a number. -/
inductive Decimal where
  | finite (negative : Bool) (digits : Nat) (exponent : Int)
  | infinite (negative : Bool)
  | nan
deriving DecidableEq, Repr, Inhabited

namespace Decimal

/-- The value of a run of decimal digits. -/
def digitsValue (ds : List Char) : Nat :=
  ds.foldl (fun acc d => acc * 10 + (d.toNat - 48)) 0

/-- Reads an exponent: `e` or `E`, an optional sign and at least one digit. -/
def readExponent : List Char → Option Int
  | e :: rest =>
    if e != 'e' && e != 'E' then none
    else
      let (negative, ds) := match rest with
        | '-' :: ds => (true, ds)
        | '+' :: ds => (false, ds)
        | ds => (false, ds)
      if ds.isEmpty || !ds.all Char.isDigit then none
      else
        let v : Int := digitsValue ds
        some (if negative then -v else v)
  | [] => some 0

/-- Reads a number without its sign. -/
def readUnsigned (negative : Bool) (cs : List Char) : Option Decimal :=
  let lower := (String.ofList cs).toLower
  if lower == "inf" || lower == "infinity" then some (.infinite negative)
  else if lower == "nan" then some .nan
  else
    let whole := cs.takeWhile Char.isDigit
    let afterWhole := cs.drop whole.length
    let (fraction, afterFraction) := match afterWhole with
      | '.' :: more => (more.takeWhile Char.isDigit, more.drop (more.takeWhile Char.isDigit).length)
      | more => ([], more)
    if whole.isEmpty && fraction.isEmpty then none
    else do
      let e ← readExponent afterFraction
      some (.finite negative (digitsValue (whole ++ fraction)) (e - fraction.length))

/-- The number a text denotes, if it is written as a decimal number. -/
def read? (s : String) : Option Decimal :=
  match s.toList with
  | '-' :: cs => readUnsigned true cs
  | '+' :: cs => readUnsigned false cs
  | cs => readUnsigned false cs

end Decimal

end RepoRouting.Number
