import RepoRouting.Yaml.Cursor
import RepoRouting.Yaml.Token

/-!
# Scanning scalars, anchors, tags and directives

Each scanner here starts at the indicator of its token (or the first character of a plain
scalar), reads the whole token and returns it with the cursor after it.

Flow and plain scalars fold their lines: a single line break between two parts becomes a space,
each further break is kept as a line feed, and blanks at the ends of lines are dropped.
A double-quoted scalar also reads escapes, and an escaped line break joins two lines with
nothing between them. Block scalars keep their breaks (literal) or fold lines that are not more
indented (folded), and chomp their final breaks as the header says.

The loops are bounded by the characters left to read: each round reads at least one
character or stops.
-/

namespace RepoRouting.Yaml

open RepoRouting.Doc

/-- A comma, a bracket or a brace: what ends a plain scalar inside a flow collection. -/
def isFlowIndicator (c : Char) : Bool :=
  c == ',' || c == '[' || c == ']' || c == '\x7b' || c == '\x7d'

/-- What a flow or plain scalar has gathered while it is read: its text, the first line
break and the further breaks of the run of blank lines being read, the blanks since the last
word, and whether the cursor is in such a run. -/
structure Gather where
  cur : Cursor
  text : String := ""
  leadingBreak : String := ""
  trailingBreaks : String := ""
  whitespaces : String := ""
  leading : Bool := false
  stop : Mark

/-- Joins what stands between two parts of a scalar: after line breaks, one line feed folds
to a space and further breaks are kept; within a line, the blanks are kept. -/
def Gather.fold (g : Gather) : Gather :=
  if g.leading then
    if g.leadingBreak.startsWith "\n" then
      if g.trailingBreaks.isEmpty then { g with text := g.text.push ' ', leadingBreak := "" }
      else { g with text := g.text ++ g.trailingBreaks, trailingBreaks := "", leadingBreak := "" }
    else
      { g with text := g.text ++ g.leadingBreak ++ g.trailingBreaks, leadingBreak := "",
               trailingBreaks := "" }
  else { g with text := g.text ++ g.whitespaces, whitespaces := "" }

/-! ## Plain scalars -/

/-- Reads the characters of a plain scalar up to a blank, a `: ` or, in a flow collection, a
flow indicator. Inside a flow collection a `:` right before a flow indicator or a `?` is an
error. -/
def plainWord (start : Mark) (flow : Bool) : Nat → Gather → Except SyntaxError Gather
  | 0, g => .ok g
  | fuel + 1, g =>
    let c := g.cur
    let ch := c.cur
    if isSpaceOrEnd ch then .ok g
    else if flow && ch == ':' && (isFlowIndicator (c.at 1) || c.at 1 == '?') then
      .error (.within "while scanning a plain scalar" start "found unexpected ':'" c.mark)
    else if (ch == ':' && isSpaceOrEnd (c.at 1)) || (flow && isFlowIndicator ch) then .ok g
    else
      let g := { g.fold with leading := false }
      let cur := c.skip
      plainWord start flow fuel { g with text := g.text.push ch, cur, stop := cur.mark }

/-- Reads the blanks and line breaks after a part of a plain scalar. A tab in the indentation of
a continuation line is an error. -/
def plainBlanks (start : Mark) (indent : Int) : Nat → Gather → Except SyntaxError Gather
  | 0, g => .ok g
  | fuel + 1, g =>
    let c := g.cur
    let ch := c.cur
    if isBlank ch then
      if g.leading && (c.mark.column : Int) < indent && ch == '\t' then
        .error (.within "while scanning a plain scalar" start
          "found a tab character that violates indentation" c.mark)
      else if g.leading then plainBlanks start indent fuel { g with cur := c.skip }
      else plainBlanks start indent fuel { g with whitespaces := g.whitespaces.push ch, cur := c.skip }
    else if isBreak ch then
      let (b, cur) := c.readLine
      if g.leading then
        plainBlanks start indent fuel { g with trailingBreaks := g.trailingBreaks ++ b, cur }
      else
        plainBlanks start indent fuel
          { g with whitespaces := "", leadingBreak := g.leadingBreak ++ b, leading := true, cur }
    else .ok g

/-- Reads the lines of a plain scalar. It ends at a document marker, a comment, an indicator
that ends it, or (outside flow collections) a line indented less than `indent`. -/
def plainLines (start : Mark) (flow : Bool) (indent : Int) : Nat → Gather → Except SyntaxError Gather
  | 0, g => .ok g
  | fuel + 1, g => do
    let c := g.cur
    if c.atDocumentMarker || c.cur == '#' then .ok g
    else
      let g ← plainWord start flow (c.rest.length + 1) g
      let ch := g.cur.cur
      if !(isBlank ch || isBreak ch) then .ok g
      else
        let g ← plainBlanks start indent (g.cur.rest.length + 1) g
        if !flow && (g.cur.mark.column : Int) < indent then .ok g
        else plainLines start flow indent fuel g

/-- Scans a plain scalar; `indent` is the indentation of the enclosing block. Also says whether
the scalar ended after a line break, where a simple key may start again. -/
def scanPlain (flow : Bool) (indent : Int) (c : Cursor) :
    Except SyntaxError (Token × Cursor × Bool) := do
  let start := c.mark
  let g ← plainLines start flow (indent + 1) (c.rest.length + 1) { cur := c, stop := start }
  .ok (⟨.scalar g.text .plain, start, g.stop⟩, g.cur, g.leading)

/-! ## Quoted scalars -/

/-- What a backslash escape in a double-quoted scalar stands for: a character, or a code point
in so many hexadecimal digits. -/
inductive Escape where
  | char (c : Char)
  | code (digits : Nat)

/-- The escape introduced by a backslash and `c`. -/
def escapeOf : Char → Option Escape
  | '0' => some (.char '\x00')
  | 'a' => some (.char '\x07')
  | 'b' => some (.char '\x08')
  | 't' => some (.char '\t')
  | '\t' => some (.char '\t')
  | 'n' => some (.char '\n')
  | 'v' => some (.char '\x0b')
  | 'f' => some (.char '\x0c')
  | 'r' => some (.char '\r')
  | 'e' => some (.char '\x1b')
  | ' ' => some (.char ' ')
  | '"' => some (.char '"')
  | '/' => some (.char '/')
  | '\\' => some (.char '\\')
  | 'N' => some (.char '\x85')
  | '_' => some (.char '\xa0')
  | 'L' => some (.char '\u2028')
  | 'P' => some (.char '\u2029')
  | 'x' => some (.code 2)
  | 'u' => some (.code 4)
  | 'U' => some (.code 8)
  | _ => none

/-- The value of `n` hexadecimal digits at the cursor, if they are all there. -/
def hexValueAt (c : Cursor) (n : Nat) : Option Nat :=
  (List.range n).foldlM (fun acc k => (hexDigit? (c.at k)).map (acc * 16 + ·)) 0

/-- Reads the characters of a quoted scalar up to a blank, the closing quote or an escaped
line break. -/
def quotedWord (single : Bool) (start : Mark) : Nat → Gather → Except SyntaxError Gather
  | 0, g => .ok g
  | fuel + 1, g =>
    let c := g.cur
    let ch := c.cur
    if isSpaceOrEnd ch then .ok g
    else if single && ch == '\'' && c.at 1 == '\'' then
      quotedWord single start fuel { g with text := g.text.push '\'', cur := c.skipN 2 }
    else if ch == (if single then '\'' else '"') then .ok g
    else if !single && ch == '\\' && isBreak (c.at 1) then
      .ok { g with cur := c.skip.skipLine, leading := true }
    else if !single && ch == '\\' then
      match escapeOf (c.at 1) with
      | some (.char e) => quotedWord single start fuel { g with text := g.text.push e, cur := c.skipN 2 }
      | some (.code n) =>
        let c2 := c.skipN 2
        match hexValueAt c2 n with
        | none =>
          .error (.within "while parsing a quoted scalar" start
            "did not find expected hexdecimal number" c2.mark)
        | some v =>
          if (0xD800 ≤ v && v ≤ 0xDFFF) || v > 0x10FFFF then
            .error (.within "while parsing a quoted scalar" start
              "found invalid Unicode character escape code" c2.mark)
          else
            quotedWord single start fuel
              { g with text := g.text.push (Char.ofNat v), cur := c2.skipN n }
      | none =>
        .error (.within "while parsing a quoted scalar" start "found unknown escape character" c.mark)
    else quotedWord single start fuel { g with text := g.text.push ch, cur := c.skip }

/-- Reads the blanks and line breaks between parts of a quoted scalar. -/
def quotedBlanks : Nat → Gather → Gather
  | 0, g => g
  | fuel + 1, g =>
    let c := g.cur
    let ch := c.cur
    if isBlank ch then
      if g.leading then quotedBlanks fuel { g with cur := c.skip }
      else quotedBlanks fuel { g with whitespaces := g.whitespaces.push ch, cur := c.skip }
    else if isBreak ch then
      let (b, cur) := c.readLine
      if g.leading then quotedBlanks fuel { g with trailingBreaks := g.trailingBreaks ++ b, cur }
      else
        quotedBlanks fuel
          { g with whitespaces := "", leadingBreak := g.leadingBreak ++ b, leading := true, cur }
    else g

/-- Reads the lines of a quoted scalar up to its closing quote. A document marker or the end of
the text before it is an error. -/
def quotedLines (single : Bool) (start : Mark) : Nat → Gather → Except SyntaxError Gather
  | 0, g => .ok g
  | fuel + 1, g => do
    let c := g.cur
    if c.atDocumentMarker then
      .error (.within "while scanning a quoted scalar" start "found unexpected document indicator"
        c.mark)
    else if c.atEnd then
      .error (.within "while scanning a quoted scalar" start "found unexpected end of stream" c.mark)
    else
      let g ← quotedWord single start (c.rest.length + 1) { g with leading := false }
      if g.cur.cur == (if single then '\'' else '"') then .ok g
      else quotedLines single start fuel (quotedBlanks (g.cur.rest.length + 1) g).fold

/-- Scans a single- or double-quoted scalar. -/
def scanQuoted (single : Bool) (c : Cursor) : Except SyntaxError (Token × Cursor) := do
  let start := c.mark
  let g ← quotedLines single start (c.rest.length + 2) { cur := c.skip, stop := start }
  let cur := g.cur.skip
  .ok (⟨.scalar g.text (if single then .singleQuoted else .doubleQuoted), start, cur.mark⟩, cur)

/-! ## Block scalars -/

/-- Steps over the spaces of an indentation: all of them while the indentation is not yet
known (`indent = 0`), else up to column `indent`. -/
def skipIndent (indent : Nat) : Nat → Cursor → Cursor
  | 0, c => c
  | fuel + 1, c =>
    if (indent == 0 || c.mark.column < indent) && c.cur == ' ' then skipIndent indent fuel c.skip
    else c

/-- Reads the empty lines before a line of a block scalar. Gives the cursor, the deepest
indentation seen, the breaks read and the mark after the last of them. -/
def blockBreaks (start : Mark) (indent : Nat) : Nat → Cursor → Nat → String → Mark →
    Except SyntaxError (Cursor × Nat × String × Mark)
  | 0, c, deepest, breaks, stop => .ok (c, deepest, breaks, stop)
  | fuel + 1, c, deepest, breaks, stop =>
    let c := skipIndent indent (c.rest.length + 1) c
    let deepest := max deepest c.mark.column
    if (indent == 0 || c.mark.column < indent) && c.cur == '\t' then
      .error (.within "while scanning a block scalar" start
        "found a tab character where an indentation space is expected" c.mark)
    else if !isBreak c.cur then .ok (c, deepest, breaks, stop)
    else
      let (b, c) := c.readLine
      blockBreaks start indent fuel c deepest (breaks ++ b) c.mark

/-- The header of a block scalar: chomping (`-1` strip, `0` clip, `1` keep) and the
indentation indicator (`0` when absent). -/
def blockHeader (start : Mark) (c : Cursor) : Except SyntaxError (Int × Nat × Cursor) :=
  let zero : SyntaxError :=
    .within "while scanning a block scalar" start "found an indentation indicator equal to 0" c.mark
  let chompOf (ch : Char) : Int := if ch == '+' then 1 else -1
  if c.cur == '+' || c.cur == '-' then
    let chomp := chompOf c.cur
    let c := c.skip
    if isDigit c.cur then
      if c.cur == '0' then .error { zero with mark := c.mark }
      else .ok (chomp, c.cur.toNat - '0'.toNat, c.skip)
    else .ok (chomp, 0, c)
  else if isDigit c.cur then
    if c.cur == '0' then .error zero
    else
      let n := c.cur.toNat - '0'.toNat
      let c := c.skip
      if c.cur == '+' || c.cur == '-' then .ok (chompOf c.cur, n, c.skip)
      else .ok (0, n, c)
  else .ok (0, 0, c)

/-- Reads the lines of a block scalar at its indentation, with the text, the pending line
break, the pending empty lines, whether the last line began with a blank, and the end mark. -/
def blockLines (literal : Bool) (start : Mark) (indent : Nat) :
    Nat → Cursor → String → String → String → Bool → Mark →
    Except SyntaxError (Cursor × String × String × String × Mark)
  | 0, c, text, leadingBreak, trailing, _, stop => .ok (c, text, leadingBreak, trailing, stop)
  | fuel + 1, c, text, leadingBreak, trailing, leadingBlank, stop => do
    if c.mark.column == indent && !c.atEnd then
      let trailingBlank := isBlank c.cur
      let text :=
        if !literal && leadingBreak.startsWith "\n" && !leadingBlank && !trailingBlank then
          if trailing.isEmpty then text.push ' ' else text
        else text ++ leadingBreak
      let text := text ++ trailing
      let leadingBlank := isBlank c.cur
      let (line, c) := c.readWhile fun _ => true
      let (b, c) := c.readLine
      let (c, _, trailing, stop) ← blockBreaks start indent (c.rest.length + 1) c 0 "" c.mark
      blockLines literal start indent fuel c (text ++ line) b trailing leadingBlank stop
    else .ok (c, text, leadingBreak, trailing, stop)

/-- Scans a literal (`|`) or folded (`>`) block scalar; `parentIndent` is the indentation of
the enclosing block. -/
def scanBlock (literal : Bool) (parentIndent : Int) (c : Cursor) :
    Except SyntaxError (Token × Cursor) := do
  let start := c.mark
  let (chomp, increment, c) ← blockHeader start c.skip
  let c := c.skipWhile isBlank
  let c := if c.cur == '#' then c.skipWhile (fun _ => true) else c
  if !isBreakOrEnd c.cur then
    .error (.within "while scanning a block scalar" start
      "did not find expected comment or line break" c.mark)
  else
    let c := c.skipLine
    let given : Nat :=
      if increment == 0 then 0
      else if parentIndent ≥ 0 then (parentIndent + increment).toNat else increment
    let (c, deepest, trailing, stop) ← blockBreaks start given (c.rest.length + 1) c 0 "" c.mark
    let indent := if given == 0 then max (max deepest (parentIndent + 1).toNat) 1 else given
    let (c, text, leadingBreak, trailing, stop) ←
      blockLines literal start indent (c.rest.length + 1) c "" "" trailing false stop
    let text := if chomp != -1 then text ++ leadingBreak else text
    let text := if chomp == 1 then text ++ trailing else text
    .ok (⟨.scalar text (if literal then .literal else .folded), start, stop⟩, c)

/-! ## Anchors and aliases -/

/-- Scans an anchor (`&name`) or an alias (`*name`). The name must be followed by a blank, a
break, the end or one of `?:,]}%@` and the backquote. -/
def scanAnchor (isAlias : Bool) (c : Cursor) : Except SyntaxError (Token × Cursor) :=
  let start := c.mark
  let (name, c) := c.skip.readWhile isWordChar
  let ch := c.cur
  let ends := isSpaceOrEnd ch || ch == '?' || ch == ':' || ch == ',' || ch == ']' ||
    ch == '\x7d' || ch == '%' || ch == '@' || ch == '\x60'
  if name.isEmpty || !ends then
    .error (.within (if isAlias then "while scanning an alias" else "while scanning an anchor")
      start "did not find expected alphabetic or numeric character" c.mark)
  else .ok (⟨if isAlias then .alias name else .anchor name, start, c.mark⟩, c)

/-! ## Tags and directives -/

/-- A character that a tag URI may hold as it is; in a verbatim tag or a `%TAG` prefix also
commas and brackets. -/
def isUriChar (wide : Bool) (c : Char) : Bool :=
  isWordChar c || c == ';' || c == '/' || c == '?' || c == ':' || c == '@' || c == '&' ||
    c == '=' || c == '+' || c == '$' || c == '.' || c == '%' || c == '!' || c == '~' ||
    c == '*' || c == '\'' || c == '(' || c == ')' || (wide && (c == ',' || c == '[' || c == ']'))

/-- How many bytes a UTF-8 sequence has that starts with `octet`, or zero for a byte that
cannot start one. -/
def utf8Width (octet : Nat) : Nat :=
  if octet % 128 == octet then 1
  else if octet / 32 == 6 then 2
  else if octet / 16 == 14 then 3
  else if octet / 8 == 30 then 4
  else 0

/-- The context of errors in a tag or in a `%TAG` directive. -/
def tagContext (directive : Bool) : String :=
  if directive then "while parsing a %TAG directive" else "while parsing a tag"

/-- Reads `%XX` escapes that spell one UTF-8 encoded character. -/
def uriEscapes (directive : Bool) (start : Mark) : Nat → Nat → List UInt8 → Cursor →
    Except SyntaxError (List UInt8 × Cursor)
  | 0, _, bytes, c => .ok (bytes, c)
  | fuel + 1, width, bytes, c =>
    match hexDigit? (c.at 1), hexDigit? (c.at 2) with
    | some hi, some lo =>
      if c.cur != '%' then
        .error (.within (tagContext directive) start "did not find URI escaped octet" c.mark)
      else
        let octet := hi * 16 + lo
        let width := if bytes.isEmpty then utf8Width octet else width
        if bytes.isEmpty && width == 0 then
          .error (.within (tagContext directive) start "found an incorrect leading UTF-8 octet"
            c.mark)
        else if !bytes.isEmpty && octet / 64 != 2 then
          .error (.within (tagContext directive) start "found an incorrect trailing UTF-8 octet"
            c.mark)
        else
          let bytes := bytes ++ [octet.toUInt8]
          if bytes.length == width then .ok (bytes, c.skipN 3)
          else uriEscapes directive start fuel width bytes (c.skipN 3)
    | _, _ => .error (.within (tagContext directive) start "did not find URI escaped octet" c.mark)

/-- Reads the URI of a tag after `head` (whose first `!` is dropped). -/
def tagUri (wide directive : Bool) (head : String) (start : Mark) :
    Nat → String → Nat → Cursor → Except SyntaxError (String × Cursor)
  | 0, text, _, c => .ok (text, c)
  | fuel + 1, text, count, c =>
    if isUriChar wide c.cur then
      if c.cur == '%' then do
        let (bytes, c) ← uriEscapes directive start 4 0 [] c
        let piece := (String.fromUTF8? (ByteArray.mk bytes.toArray)).getD "\uFFFD"
        tagUri wide directive head start fuel (text ++ piece) (count + 1) c
      else tagUri wide directive head start fuel (text.push c.cur) (count + 1) c.skip
    else if count == 0 then
      .error (.within (tagContext directive) start "did not find expected tag URI" c.mark)
    else .ok (text, c)

/-- Scans a tag URI after `head`. -/
def scanTagUri (wide directive : Bool) (head : String) (start : Mark) (c : Cursor) :
    Except SyntaxError (String × Cursor) :=
  tagUri wide directive head start (c.rest.length + 1)
    (if head.length > 1 then String.ofList (head.toList.drop 1) else "") head.length c

/-- Scans a tag handle: `!`, `!!` or `!word!`. In a tag a lone `!word` is also read, as the
start of a URI. -/
def scanTagHandle (directive : Bool) (start : Mark) (c : Cursor) :
    Except SyntaxError (String × Cursor) :=
  if c.cur != '!' then
    .error (.within (if directive then "while scanning a tag directive" else "while scanning a tag")
      start "did not find expected '!'" c.mark)
  else
    let (word, c) := c.skip.readWhile isWordChar
    let handle := "!" ++ word
    if c.cur == '!' then .ok (handle.push '!', c.skip)
    else if directive && handle != "!" then
      .error (.within "while parsing a tag directive" start "did not find expected '!'" c.mark)
    else .ok (handle, c)

/-- Scans a tag: verbatim `!<uri>`, a handle and a suffix, or `!` alone. Gives the handle and
the suffix. -/
def scanTag (flow : Bool) (c : Cursor) : Except SyntaxError (Token × Cursor) := do
  let start := c.mark
  let (handle, suffix, c) ←
    if c.at 1 == '<' then do
      let (suffix, c) ← scanTagUri true false "" start (c.skipN 2)
      if c.cur != '>' then
        .error (.within "while scanning a tag" start "did not find the expected '>'" c.mark)
      else .ok ("", suffix, c.skip)
    else do
      let (handle, c) ← scanTagHandle false start c
      if handle.length ≥ 2 && handle.endsWith "!" then
        let (suffix, c) ← scanTagUri false false "" start c
        .ok (handle, suffix, c)
      else
        let (suffix, c) ← scanTagUri false false handle start c
        if suffix.isEmpty then .ok ("", "!", c) else .ok ("!", suffix, c)
  if !isSpaceOrEnd c.cur && !(flow && c.cur == ',') then
    .error (.within "while scanning a tag" start "did not find expected whitespace or line break"
      c.mark)
  else .ok (⟨.tag handle suffix, start, c.mark⟩, c)

/-- Reads a version number of a `%YAML` directive: one to nine digits. -/
def versionNumber (start : Mark) (c : Cursor) : Except SyntaxError (Nat × Cursor) :=
  let (digits, c') := c.readWhile isDigit
  if digits.length > 9 then
    .error (.within "while scanning a %YAML directive" start "found extremely long version number"
      (c.skipN 9).mark)
  else if digits.isEmpty then
    .error (.within "while scanning a %YAML directive" start "did not find expected version number"
      c.mark)
  else .ok (digits.foldl (fun n d => n * 10 + (d.toNat - '0'.toNat)) 0, c')

/-- Scans a directive line: `%YAML major.minor` or `%TAG handle prefix`, then an optional
comment and the line break. -/
def scanDirective (c : Cursor) : Except SyntaxError (Token × Cursor) := do
  let start := c.mark
  let (name, c) := c.skip.readWhile isWordChar
  if name.isEmpty then
    .error (.within "while scanning a directive" start "could not find expected directive name"
      c.mark)
  else if !isSpaceOrEnd c.cur then
    .error (.within "while scanning a directive" start
      "found unexpected non-alphabetical character" c.mark)
  else
    let (kind, c) ←
      if name == "YAML" then do
        let (major, c) ← versionNumber start (c.skipWhile isBlank)
        if c.cur != '.' then
          .error (.within "while scanning a %YAML directive" start
            "did not find expected digit or '.' character" c.mark)
        else
          let (minor, c) ← versionNumber start c.skip
          .ok (TokenKind.versionDirective major minor, c)
      else if name == "TAG" then do
        let (handle, c) ← scanTagHandle true start (c.skipWhile isBlank)
        if !isBlank c.cur then
          .error (.within "while scanning a %TAG directive" start
            "did not find expected whitespace" c.mark)
        else
          let (pfx, c) ← scanTagUri true true "" start (c.skipWhile isBlank)
          if !isSpaceOrEnd c.cur then
            .error (.within "while scanning a %TAG directive" start
              "did not find expected whitespace or line break" c.mark)
          else .ok (TokenKind.tagDirective handle pfx, c)
      else
        .error (.within "while scanning a directive" start "found unknown directive name" c.mark)
    let stop := c.mark
    let c := c.skipWhile isBlank
    let c := if c.cur == '#' then c.skipWhile (fun _ => true) else c
    if !isBreakOrEnd c.cur then
      .error (.within "while scanning a directive" start
        "did not find expected comment or line break" c.mark)
    else .ok (⟨kind, start, stop⟩, c.skipLine)

end RepoRouting.Yaml
