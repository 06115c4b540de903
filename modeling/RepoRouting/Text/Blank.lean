/-!
# Blank characters and trimming

A character is *blank* when Unicode gives it the `White_Space` property. Ids, layouts,
policy words and pattern terms are compared after trimming blanks from both ends; a zero
width space (U+200B) is not blank and survives a trim.

`trim` is read through its character list (`trim_toList`); every character that core
calls whitespace is blank here too (`isBlank_of_isWhitespace`).
-/

namespace RepoRouting.Text

/-- The `White_Space` characters of Unicode: tab to carriage return, space, next line,
no-break space, ogham space, the spaces from en quad to hair space, the line and paragraph
separators, the narrow no-break space, the medium mathematical space and the ideographic
space. -/
def isBlank (c : Char) : Bool :=
  let n := c.toNat
  (0x09 ≤ n && n ≤ 0x0D) || n == 0x20 || n == 0x85 || n == 0xA0 || n == 0x1680 ||
    (0x2000 ≤ n && n ≤ 0x200A) || n == 0x2028 || n == 0x2029 || n == 0x202F ||
    n == 0x205F || n == 0x3000

/-- Drops blanks at both ends of a character list. -/
def trimList (cs : List Char) : List Char :=
  ((cs.dropWhile isBlank).reverse.dropWhile isBlank).reverse

/-- The text without its blank ends. -/
def trim (s : String) : String :=
  String.ofList (trimList s.toList)

/-- A text is blank when nothing is left after trimming it. -/
def isBlankText (s : String) : Bool :=
  s.toList.all isBlank

theorem trim_toList (s : String) : (trim s).toList = trimList s.toList := by
  simp [trim]

/-- Every character core calls whitespace is blank here too. -/
theorem isBlank_of_isWhitespace {c : Char} (h : c.isWhitespace = true) : isBlank c = true := by
  simp only [Char.isWhitespace, Bool.or_eq_true, decide_eq_true_eq] at h
  simp only [isBlank, Bool.or_eq_true, Bool.and_eq_true, decide_eq_true_eq, beq_iff_eq]
  rcases h with ((h | h) | h) | h <;> simp [h]

end RepoRouting.Text
