import RepoRouting.Text.Width
import RepoRouting.Text.LineBreak

/-!
# Filling text into lines

`Filling.fill` sets a text on lines of a given width, each line after an indent: one for the
first line, another for the rest. Each line of the text (the text is cut at line feeds first)
is filled on its own.

A line is cut into words where the line breaking rules allow a break, except after a hyphen;
a word keeps the spaces that follow it. A hyphen between two letters or digits may end a line
too, so a word is split after such a hyphen. A piece still wider than a line is cut into
pieces that fit, one character more never fitting.

Terminal escape sequences take no columns: a control sequence (escape and `[`) runs to its
final character, from `@` to `~`; an operating system command (escape and `]`) to a bell or
an escape and `\`; any other escape takes the one character after it. Breaks are found in
the text without its escape sequences, and a sequence in front of a word goes with it.

The pieces are then set on lines in turn: a piece starts a new line when it does not fit in
the columns left on the current one, unless it is the first piece of that line. When an
indent is written, the first line starts with an empty piece, so that a first word too wide
for it goes to the next line. A line is written as its indent, then its pieces with the
spaces between them, without the spaces after the last.
-/

namespace RepoRouting.Text

/-- A piece of a line that is never cut: its characters, its width, and the spaces after it. -/
structure Piece where
  chars : List Char
  width : Nat
  spaces : Nat
deriving Repr, Inhabited

/-- The number of characters after an operating system command's `]` up to its end, that
end included: a bell, or `\` after an escape. -/
def commandLength (last : Char) : List Char → Nat
  | [] => 0
  | c :: cs => if c == '\x07' || (c == '\\' && last == '\x1b') then 1 else 1 + commandLength c cs

/-- The number of characters of a terminal escape sequence that starts the text, its escape
character included; none if the text does not start with an escape. -/
def escapeLength : List Char → Nat
  | '\x1b' :: '[' :: rest =>
    let body := rest.takeWhile fun c => !('@' ≤ c && c ≤ '~')
    2 + body.length + (if rest.length > body.length then 1 else 0)
  | '\x1b' :: ']' :: rest => 2 + commandLength ']' rest
  | '\x1b' :: _ :: _ => 2
  | '\x1b' :: [] => 1
  | _ => 0

/-- Marks which characters are shown, and not part of an escape sequence; `hidden` counts the
characters of the current sequence still to come. -/
def shownFrom (hidden : Nat) : List Char → List Bool
  | [] => []
  | c :: cs =>
    if hidden > 0 then false :: shownFrom (hidden - 1) cs
    else if c == '\x1b' then false :: shownFrom (escapeLength (c :: cs) - 1) cs
    else true :: shownFrom 0 cs

/-- Which characters of a text are shown. -/
def shownMarks (cs : List Char) : List Bool := shownFrom 0 cs

/-- The columns the shown characters of a text take. -/
def shownColumns (cs : List Char) : Nat :=
  (cs.zip (shownMarks cs)).foldl (fun n (c, shown) => if shown then n + charColumns c else n) 0

/-- A piece of characters with the spaces after it. -/
def Piece.ofChars (cs : List Char) (spaces : Nat) : Piece :=
  ⟨cs, shownColumns cs, spaces⟩

/-- The segments of a line between the given positions, which are increasing. -/
def cutAt (cs : List Char) (from_ : Nat) : List Nat → List (List Char)
  | [] => [cs]
  | p :: ps => cs.take (p - from_) :: cutAt (cs.drop (p - from_)) p ps

/-- A segment as a word: its characters without the spaces at its end, and their number. -/
def wordOf (seg : List Char) : Piece :=
  let body := (seg.reverse.dropWhile (· == ' ')).reverse
  Piece.ofChars body (seg.length - body.length)

/-- The words of a line: cut where a break is allowed in its shown characters, but not after a
hyphen or a soft hyphen. A break before the `p`-th shown character cuts the line before the
first character that follows `p` shown characters, so an escape sequence there goes with the
word after it. -/
def words (text : List Char) : List Piece :=
  let marks := shownMarks text
  let stripped := (text.zip marks).filterMap fun (c, shown) => if shown then some c else none
  let cuts := (breaks stripped).filter fun p =>
    match stripped[p - 1]? with
    | some c => c != '-' && c != '\u00AD'
    | none => true
  let shownBefore := marks.scanl (fun n shown => if shown then n + 1 else n) 0
  let positions := cuts.filterMap fun p => shownBefore.findIdx? (· == p)
  if text.isEmpty then [] else (cutAt text 0 positions).map wordOf

/-- The positions after the hyphens of a word that stand between two letters or digits. -/
def hyphenCuts (cs : List Char) : List Nat :=
  ((List.range cs.length).filter fun i =>
    cs[i]? == some '-' &&
      (match cs[i - 1]?, cs[i + 1]? with
        | some a, some b => i > 0 && isLetterOrNumber a && isLetterOrNumber b
        | _, _ => false)).map (· + 1)

/-- A word split after its hyphens between letters or digits; the last piece keeps the
spaces. -/
def splitHyphens (w : Piece) : List Piece :=
  let segs := cutAt w.chars 0 (hyphenCuts w.chars)
  let n := segs.length
  (segs.zipIdx).map fun (seg, k) => Piece.ofChars seg (if k + 1 == n then w.spaces else 0)

/-- Cuts characters into runs of at most `limit` columns (a run holds at least one shown
character before another starts; escape sequences take no columns and stay in the run
before them), the current run having `acc` of `accWidth` columns; `marks` says which
characters are shown. -/
def cutRuns (limit : Nat) (acc : List Char) (accWidth : Nat) :
    List (Char × Bool) → List (List Char)
  | [] => [acc]
  | (c, shown) :: cs =>
    if !shown then cutRuns limit (acc ++ [c]) accWidth cs
    else
      let w := charColumns c
      if accWidth > 0 && accWidth + w > limit then acc :: cutRuns limit [c] w cs
      else cutRuns limit (acc ++ [c]) (accWidth + w) cs

/-- A piece wider than `limit` cut into pieces that fit; the last keeps the spaces. -/
def breakPiece (limit : Nat) (p : Piece) : List Piece :=
  if p.width ≤ limit then [p]
  else
    let runs := cutRuns limit [] 0 (p.chars.zip (shownMarks p.chars))
    let n := runs.length
    (runs.zipIdx).map fun (run, k) => Piece.ofChars run (if k + 1 == n then p.spaces else 0)

/-- Sets pieces on lines in turn, given the room of the first line and of the others: a piece
that does not fit in what is left of the current line starts the next one, unless the current
line is empty. Gives each line's pieces; `line` holds the pieces of the current line, `used`
their columns with the spaces after them, and `done` the lines before it. -/
def firstFit (first rest : Nat) (done : List (List Piece)) (line : List Piece) (used : Nat) :
    List Piece → List (List Piece)
  | [] => done ++ [line]
  | p :: ps =>
    let room := if done.isEmpty then first else rest
    if used + p.width > room && !line.isEmpty then
      firstFit first rest (done ++ [line]) [p] (p.width + p.spaces) ps
    else firstFit first rest done (line ++ [p]) (used + p.width + p.spaces) ps

/-- The text of a line of pieces: the pieces with the spaces between them. -/
def lineText (ps : List Piece) : String :=
  let body := ps.zipIdx.flatMap fun (p, k) =>
    p.chars ++ (if k + 1 == ps.length then [] else List.replicate p.spaces ' ')
  String.ofList body

/-- How text is filled: the width of a line and the indents of the first and the other
lines. -/
structure Filling where
  width : Nat
  firstIndent : String
  restIndent : String
deriving Repr, Inhabited

namespace Filling

/-- The lines of one line of text; `opening` says whether it is the first line written. -/
def lines (o : Filling) (opening : Bool) (line : String) : List String :=
  let indent := if opening then o.firstIndent else o.restIndent
  if line.utf8ByteSize < o.width && indent.isEmpty then
    [String.ofList (line.toList.reverse.dropWhile (· == ' ')).reverse]
  else
    let first := o.width - columns o.firstIndent
    let rest := o.width - columns o.restIndent
    let split := ((words line.toList).flatMap splitHyphens).flatMap (breakPiece rest)
    let pieces := if o.firstIndent.isEmpty then split else ⟨[], 0, 0⟩ :: split
    if pieces.isEmpty then [""]
    else
      (firstFit first rest [] [] 0 pieces).zipIdx.map fun (ps, k) =>
        (if opening && k == 0 then o.firstIndent else o.restIndent) ++ lineText ps

/-- The lines of a text: each of its lines filled in turn. -/
def wrap (o : Filling) (text : String) : List String :=
  ((text.splitOn "\n").zipIdx).flatMap fun (line, k) => o.lines (k == 0) line

/-- A text filled into lines joined by line feeds. A short text of one line without indent is
kept as it is, without the spaces at its end. -/
def fill (o : Filling) (text : String) : String :=
  if text.utf8ByteSize < o.width && !text.contains '\n' && o.firstIndent.isEmpty then
    String.ofList (text.toList.reverse.dropWhile (· == ' ')).reverse
  else "\n".intercalate (o.wrap text)

end Filling

end RepoRouting.Text
