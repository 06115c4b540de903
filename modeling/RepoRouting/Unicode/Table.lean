/-!
# Code point tables

Tables of Unicode properties are kept as sorted, disjoint ranges of code points, each with
a value. A table is written as text, one entry per `;`: the first code point in hexadecimal,
optionally `-` and the last one, then `=` and the value. Looking a code point up is a
binary search.
-/

namespace RepoRouting.Unicode

/-- A range of code points with a value. -/
structure Entry (α : Type) where
  lo : Nat
  hi : Nat
  value : α
deriving Inhabited

/-- The value of a hexadecimal digit string; `0` for anything else. -/
def hexValue (s : String) : Nat :=
  s.toList.foldl (fun acc c =>
    let d :=
      if '0' ≤ c && c ≤ '9' then c.toNat - 48
      else if 'a' ≤ c && c ≤ 'f' then c.toNat - 87
      else if 'A' ≤ c && c ≤ 'F' then c.toNat - 55
      else 0
    acc * 16 + d) 0

/-- Reads one entry `lo[-hi]=value`. -/
def parseEntry (value : String → α) (s : String) : Option (Entry α) :=
  match s.splitOn "=" with
  | [range, v] =>
    match range.splitOn "-" with
    | [lo] => some ⟨hexValue lo, hexValue lo, value v⟩
    | [lo, hi] => some ⟨hexValue lo, hexValue hi, value v⟩
    | _ => none
  | _ => none

/-- Reads a table from its text. -/
def parseTable (value : String → α) (text : String) : Array (Entry α) :=
  ((text.splitOn ";").filterMap (parseEntry value)).toArray

/-- Binary search between positions `lo` (included) and `hi` (excluded), one halving per
unit of fuel. -/
def searchFrom (t : Array (Entry α)) (c : Nat) : Nat → Nat → Nat → Option α
  | 0, _, _ => none
  | fuel + 1, lo, hi =>
    if lo < hi then
      let mid := (lo + hi) / 2
      match t[mid]? with
      | none => none
      | some e =>
        if c < e.lo then searchFrom t c fuel lo mid
        else if e.hi < c then searchFrom t c fuel (mid + 1) hi
        else some e.value
    else none

/-- The value of the range holding a code point, if any. -/
def lookup (t : Array (Entry α)) (c : Nat) : Option α :=
  searchFrom t c 64 0 t.size

end RepoRouting.Unicode
