import RepoRouting.Number.Binary64
/-!
# Similarity of words

The Jaro similarity of two words, used to suggest the word that was probably meant. Two
characters match when they are equal and no further apart than half the length of the longer
word, less one; each character matches at most one character of the other word, the first
free one in reach. With `m` matches and `t` transpositions (half the number of matched
characters that are out of order), the similarity of words of lengths `a` and `b` is
`(m / a + m / b + (m - t) / m) / 3`; two empty words are alike, and a word without matches
is not alike at all.

The similarity is computed in binary64 arithmetic, each division and sum rounded in turn from
left to right, and a word is likely meant when its similarity is above the binary64 value
nearest to `0.7`: `mrops` and `mirror` are `(3/5 + 3/6 + 3/3) / 3`, which rounds above it.
-/

namespace RepoRouting.Text

open Number

/-- Whether a similarity is above seven tenths. -/
def likely (x : Binary64) : Bool := x.gt (Binary64.ofRatio false 7 10)

/-- Marks the characters of `b` that match characters of `a`, `i` being the position of the
next character of `a`; gives the matched positions of `a` and the marks on `b`. -/
def matchFrom (reach : Nat) (b : List Char) (i : Nat) (marks : List Bool) :
    List Char → List Nat × List Bool
  | [] => ([], marks)
  | c :: cs =>
    let lo := i - reach
    let hi := min b.length (i + reach + 1)
    let found := (List.range hi).find? fun j =>
      lo ≤ j && b[j]? == some c && marks[j]? == some false
    match found with
    | some j =>
      let (rest, marks') := matchFrom reach b (i + 1) (marks.set j true) cs
      (i :: rest, marks')
    | none => matchFrom reach b (i + 1) marks cs

/-- The Jaro similarity of two words. -/
def jaro (a b : List Char) : Binary64 :=
  if a.isEmpty && b.isEmpty then Binary64.ofNat 1
  else if a.isEmpty || b.isEmpty then Binary64.ofNat 0
  else
    let reach := max a.length b.length / 2 - 1
    let (hitsA, marks) := matchFrom reach b 0 (List.replicate b.length false) a
    let m := hitsA.length
    if m == 0 then Binary64.ofNat 0
    else
      let fromA := hitsA.filterMap (a[·]?)
      let fromB := ((b.zip marks).filter (·.2)).map (·.1)
      let t := ((fromA.zip fromB).filter fun (x, y) => x != y).length / 2
      let part (n d : Nat) := (Binary64.ofNat n).div (Binary64.ofNat d)
      (((part m a.length).add (part m b.length)).add (part (m - t) m)).div (Binary64.ofNat 3)

/-- The candidates that are likely meant by a word, the most similar last; candidates equally
similar keep their order. -/
def likelyMeant (word : String) (candidates : List String) : List String :=
  let scored := (candidates.map fun c => (jaro word.toList c.toList, c)).filter (likely ·.1)
  (scored.mergeSort fun x y => y.1.compare? x.1 != some .lt).map (·.2)

end RepoRouting.Text
