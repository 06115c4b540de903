import RepoRouting.Yaml.Scalar

/-!
# The token stream of YAML text

A `Lexer` hands out the tokens of a text one at a time, and reads ahead only as far as it must.
Reading ahead is needed because a block mapping key carries no indicator: a scalar (or a flow
collection, an anchor, a tag) may turn out to be a key only when a `:` follows it. Each place
where a simple key could start is kept as a candidate with the number of the token it would
precede. When the `:` comes, a `key` token is put in front of that token, and a
`blockMappingStart` too if the key opens a new, deeper indentation. A token is handed out only
when no candidate waits in front of it.

A candidate lapses at the end of its line or 1024 bytes on. A candidate that must be a key
(it stands at the indentation of the block mapping) is an error when it lapses or is dropped.

Indentation is kept as a stack of columns: a token indented deeper opens a block collection,
and a token indented less closes each block it leaves with `blockEnd`.

Because the lexer reads ahead, a syntax error can surface before the tokens that precede it in
the text are handed out; the lexer keeps that order, and with it which events a reader sees
before the error.
-/

namespace RepoRouting.Yaml

open RepoRouting.Doc

/-- A place where a simple key may start: whether it still may, whether it must (a missing `:`
is then an error), the number of the token it would precede, and its mark. -/
structure KeyCandidate where
  possible : Bool := false
  required : Bool := false
  tokenNumber : Nat := 0
  mark : Mark := {}
deriving Inhabited

/-- The state of the scanner: the text left, the tokens read ahead, and the bookkeeping of
flow depth, indentation and simple-key candidates (innermost flow level first). -/
structure Lexer where
  cur : Cursor
  started : Bool := false
  flowLevel : Nat := 0
  queue : List Token := []
  /-- How many tokens have been handed out. -/
  taken : Nat := 0
  indent : Int := -1
  indents : List Int := []
  keyAllowed : Bool := false
  candidates : List KeyCandidate := []
  /-- Whether the head of the queue may be handed out without reading further. -/
  ready : Bool := false

/-- The lexer at the start of a text. -/
def Lexer.ofCursor (c : Cursor) : Lexer := { cur := c }

/-- Appends a token that stops where the cursor is. -/
def Lexer.emit (lx : Lexer) (kind : TokenKind) (start : Mark) : Lexer :=
  { lx with queue := lx.queue ++ [⟨kind, start, lx.cur.mark⟩] }

/-- Whether the flow level is zero. -/
def Lexer.inBlock (lx : Lexer) : Bool := lx.flowLevel == 0

/-- The error of a simple key whose `:` never came. -/
def missingColon (k : KeyCandidate) (here : Mark) : SyntaxError :=
  .within "while scanning a simple key" k.mark "could not find expected ':'" here

/-- Drops the candidate of the current flow level; an error if it had to be a key. -/
def Lexer.dropCandidate (lx : Lexer) : Except SyntaxError Lexer :=
  match lx.candidates with
  | k :: ks =>
    if k.possible && k.required then .error (missingColon k lx.cur.mark)
    else .ok { lx with candidates := { k with possible := false } :: ks }
  | [] => .ok lx

/-- Records that a simple key may start at the cursor, in place of the current candidate. -/
def Lexer.saveCandidate (lx : Lexer) : Except SyntaxError Lexer := do
  if lx.keyAllowed then
    let k : KeyCandidate :=
      { possible := true, required := lx.inBlock && lx.indent == (lx.cur.mark.column : Int),
        tokenNumber := lx.taken + lx.queue.length, mark := lx.cur.mark }
    let lx ← lx.dropCandidate
    .ok { lx with candidates := k :: lx.candidates.drop 1 }
  else .ok lx

/-- Lets every candidate that began on an earlier line, or over 1024 characters back, lapse. -/
def Lexer.lapseCandidates (lx : Lexer) : Except SyntaxError Lexer := do
  let here := lx.cur.mark
  let ks ← lx.candidates.mapM fun k =>
    if k.possible && (k.mark.line < here.line || k.mark.index + 1024 < here.index) then
      if k.required then .error (missingColon k here) else .ok { k with possible := false }
    else .ok k
  .ok { lx with candidates := ks }

/-- Enters a flow collection. -/
def Lexer.enterFlow (lx : Lexer) : Lexer :=
  { lx with candidates := {} :: lx.candidates, flowLevel := lx.flowLevel + 1 }

/-- Leaves a flow collection. -/
def Lexer.leaveFlow (lx : Lexer) : Lexer :=
  if lx.flowLevel == 0 then lx
  else { lx with flowLevel := lx.flowLevel - 1, candidates := lx.candidates.drop 1 }

/-- Opens a block collection at `column` if that is deeper than the current indentation; its
start token goes at the end of the queue, or in front of token `before`. -/
def Lexer.rollIndent (lx : Lexer) (column : Int) (before : Option Nat) (kind : TokenKind)
    (mark : Mark) : Lexer :=
  if !lx.inBlock || column ≤ lx.indent then lx
  else
    let token : Token := ⟨kind, mark, mark⟩
    let queue :=
      match before with
      | none => lx.queue ++ [token]
      | some n => lx.queue.insertIdx (n - lx.taken) token
    { lx with indents := lx.indent :: lx.indents, indent := column, queue }

/-- Closes the block collections indented deeper than `column`. -/
def Lexer.unrollIndent (lx : Lexer) (column : Int) : Lexer :=
  if !lx.inBlock then lx else go lx.indents lx
where
  /-- Pops one indentation for each `blockEnd`. -/
  go : List Int → Lexer → Lexer
    | [], lx => lx
    | i :: is, lx =>
      if lx.indent > column then
        go is { lx.emit .blockEnd lx.cur.mark with indent := i, indents := is }
      else lx

/-! ## Fetching tokens -/

/-- Steps over blanks, comments and line breaks up to the next token. Tabs are skipped only
where they cannot be indentation: in flow collections, or where no simple key may start. -/
def Lexer.skipToToken (lx : Lexer) : Nat → Lexer
  | 0 => lx
  | fuel + 1 =>
    let c := lx.cur
    let c := if c.mark.column == 0 && c.cur == '\uFEFF' then c.skip else c
    let tabsToo := !lx.inBlock || !lx.keyAllowed
    let c := c.skipWhile fun ch => ch == ' ' || (tabsToo && ch == '\t')
    let c := if c.cur == '#' then c.skipWhile (fun _ => true) else c
    if isBreak c.cur then
      let lx := { lx with cur := c.skipLine }
      (if lx.inBlock then { lx with keyAllowed := true } else lx).skipToToken fuel
    else { lx with cur := c }

/-- Steps over an indicator of `n` characters and emits its token. -/
def Lexer.indicator (lx : Lexer) (kind : TokenKind) (n : Nat := 1) : Lexer :=
  let start := lx.cur.mark
  { lx with cur := lx.cur.skipN n }.emit kind start

/-- The end of the text: closes every block and emits `streamEnd` on a fresh line. -/
def Lexer.fetchStreamEnd (lx : Lexer) : Except SyntaxError Lexer := do
  let m := lx.cur.mark
  let lx := if m.column != 0 then { lx with cur := { lx.cur with mark := ⟨m.index, m.line + 1, 0⟩ } }
    else lx
  let lx := lx.unrollIndent (-1)
  let lx ← lx.dropCandidate
  .ok ({ lx with keyAllowed := false }.emit .streamEnd lx.cur.mark)

/-- A directive or a document marker: closes every block first. -/
def Lexer.fetchAtColumnZero (lx : Lexer) (directive : Bool) (kind : TokenKind) :
    Except SyntaxError Lexer := do
  let lx := lx.unrollIndent (-1)
  let lx ← lx.dropCandidate
  let lx := { lx with keyAllowed := false }
  if directive then
    let (tok, c) ← scanDirective lx.cur
    .ok { lx with cur := c, queue := lx.queue ++ [tok] }
  else .ok (lx.indicator kind 3)

/-- `[` or `\x7b`: a flow collection starts, and may be a simple key. -/
def Lexer.fetchFlowStart (lx : Lexer) (kind : TokenKind) : Except SyntaxError Lexer := do
  let lx ← lx.saveCandidate
  .ok ({ lx.enterFlow with keyAllowed := true }.indicator kind)

/-- `]` or `\x7d`: a flow collection ends. -/
def Lexer.fetchFlowEnd (lx : Lexer) (kind : TokenKind) : Except SyntaxError Lexer := do
  let lx ← lx.dropCandidate
  .ok ({ lx.leaveFlow with keyAllowed := false }.indicator kind)

/-- `,` between flow entries. -/
def Lexer.fetchFlowEntry (lx : Lexer) : Except SyntaxError Lexer := do
  let lx ← lx.dropCandidate
  .ok ({ lx with keyAllowed := true }.indicator .flowEntry)

/-- `- ` of a block sequence entry; in a block it may open a sequence. -/
def Lexer.fetchBlockEntry (lx : Lexer) : Except SyntaxError Lexer := do
  let lx ← if lx.inBlock then
      if !lx.keyAllowed then
        .error { problem := "block sequence entries are not allowed in this context",
                 mark := lx.cur.mark }
      else .ok (lx.rollIndent lx.cur.mark.column none .blockSequenceStart lx.cur.mark)
    else .ok lx
  let lx ← lx.dropCandidate
  .ok ({ lx with keyAllowed := true }.indicator .blockEntry)

/-- `? ` of a complex key; in a block it may open a mapping. -/
def Lexer.fetchKey (lx : Lexer) : Except SyntaxError Lexer := do
  let lx ← if lx.inBlock then
      if !lx.keyAllowed then
        .error { problem := "mapping keys are not allowed in this context", mark := lx.cur.mark }
      else .ok (lx.rollIndent lx.cur.mark.column none .blockMappingStart lx.cur.mark)
    else .ok lx
  let lx ← lx.dropCandidate
  .ok ({ lx with keyAllowed := lx.inBlock }.indicator .key)

/-- `:` of a value. If a simple key waits, its `key` token (and a mapping start) is put in
front of it. -/
def Lexer.fetchValue (lx : Lexer) : Except SyntaxError Lexer := do
  match lx.candidates with
  | k :: ks =>
    if k.possible then
      let keyToken : Token := ⟨.key, k.mark, k.mark⟩
      let lx := { lx with queue := lx.queue.insertIdx (k.tokenNumber - lx.taken) keyToken }
      let lx := lx.rollIndent k.mark.column (some k.tokenNumber) .blockMappingStart k.mark
      let lx := { lx with candidates := { k with possible := false } :: ks, keyAllowed := false }
      .ok (lx.indicator .value)
    else plainValue lx
  | [] => plainValue lx
where
  /-- A `:` with no simple key before it. -/
  plainValue (lx : Lexer) : Except SyntaxError Lexer := do
    let lx ← if lx.inBlock then
        if !lx.keyAllowed then
          .error { problem := "mapping values are not allowed in this context",
                   mark := lx.cur.mark }
        else .ok (lx.rollIndent lx.cur.mark.column none .blockMappingStart lx.cur.mark)
      else .ok lx
    .ok ({ lx with keyAllowed := lx.inBlock }.indicator .value)

/-- Appends a token read by a scanner, with the cursor after it. -/
def Lexer.take (lx : Lexer) (r : Except SyntaxError (Token × Cursor)) : Except SyntaxError Lexer :=
  r.map fun (tok, c) => { lx with cur := c, queue := lx.queue ++ [tok] }

/-- A token that may start a simple key and after which none may: an anchor, alias, tag or
quoted scalar. -/
def Lexer.fetchKeyable (lx : Lexer) (scan : Cursor → Except SyntaxError (Token × Cursor)) :
    Except SyntaxError Lexer := do
  let lx ← lx.saveCandidate
  { lx with keyAllowed := false }.take (scan lx.cur)

/-- A plain scalar; a simple key may start after it if it ended past a line break. -/
def Lexer.fetchPlain (lx : Lexer) : Except SyntaxError Lexer := do
  let lx ← lx.saveCandidate
  let (tok, c, broke) ← scanPlain (!lx.inBlock) lx.indent lx.cur
  .ok { lx with cur := c, queue := lx.queue ++ [tok], keyAllowed := broke }

/-- A block scalar. -/
def Lexer.fetchBlockScalar (lx : Lexer) (literal : Bool) : Except SyntaxError Lexer := do
  let lx ← lx.dropCandidate
  { lx with keyAllowed := true }.take (scanBlock literal lx.indent lx.cur)

/-- Whether a plain scalar may start here. -/
def startsPlain (flow : Bool) (c : Cursor) : Bool :=
  let ch := c.cur
  let indicator := isSpaceOrEnd ch || ch == '-' || ch == '?' || ch == ':' || ch == ',' ||
    ch == '[' || ch == ']' || ch == '\x7b' || ch == '\x7d' || ch == '#' || ch == '&' ||
    ch == '*' || ch == '!' || ch == '|' || ch == '>' || ch == '\'' || ch == '"' || ch == '%' ||
    ch == '@' || ch == '\x60'
  !indicator || (ch == '-' && !isBlank (c.at 1)) ||
    (!flow && (ch == '?' || ch == ':') && !isSpaceOrEnd (c.at 1))

/-- Reads the next token or tokens of the text into the queue. -/
def Lexer.fetchNext (lx : Lexer) : Except SyntaxError Lexer := do
  if !lx.started then
    let lx := { lx with indent := -1, candidates := [{}], keyAllowed := true, started := true }
    return lx.emit .streamStart lx.cur.mark
  let lx := lx.skipToToken (lx.cur.rest.length + 1)
  let lx ← lx.lapseCandidates
  let lx := lx.unrollIndent lx.cur.mark.column
  let c := lx.cur
  let ch := c.cur
  let flow := !lx.inBlock
  if c.atEnd then lx.fetchStreamEnd
  else if c.mark.column == 0 && ch == '%' then lx.fetchAtColumnZero true .documentStart
  else if c.atDocumentMarker && ch == '-' then lx.fetchAtColumnZero false .documentStart
  else if c.atDocumentMarker && ch == '.' then lx.fetchAtColumnZero false .documentEnd
  else if ch == '[' then lx.fetchFlowStart .flowSequenceStart
  else if ch == '\x7b' then lx.fetchFlowStart .flowMappingStart
  else if ch == ']' then lx.fetchFlowEnd .flowSequenceEnd
  else if ch == '\x7d' then lx.fetchFlowEnd .flowMappingEnd
  else if ch == ',' then lx.fetchFlowEntry
  else if ch == '-' && isSpaceOrEnd (c.at 1) then lx.fetchBlockEntry
  else if ch == '?' && (flow || isSpaceOrEnd (c.at 1)) then lx.fetchKey
  else if ch == ':' && (flow || isSpaceOrEnd (c.at 1)) then lx.fetchValue
  else if ch == '*' then lx.fetchKeyable (scanAnchor true)
  else if ch == '&' then lx.fetchKeyable (scanAnchor false)
  else if ch == '!' then lx.fetchKeyable (scanTag flow)
  else if ch == '|' && !flow then lx.fetchBlockScalar true
  else if ch == '>' && !flow then lx.fetchBlockScalar false
  else if ch == '\'' then lx.fetchKeyable (scanQuoted true)
  else if ch == '"' then lx.fetchKeyable (scanQuoted false)
  else if startsPlain flow c then lx.fetchPlain
  else
    .error (.within "while scanning for the next token" c.mark
      "found character that cannot start any token" c.mark)

/-- Whether the head of the queue must wait: the queue is empty, or a candidate key would
precede the head. -/
def Lexer.mustWait (lx : Lexer) : Except SyntaxError (Bool × Lexer) := do
  if lx.queue.isEmpty then return (true, lx)
  let lx ← lx.lapseCandidates
  .ok (lx.candidates.any (fun k => k.possible && k.tokenNumber == lx.taken), lx)

/-- Reads ahead until the head of the queue may be handed out. -/
def Lexer.fill (lx : Lexer) : Nat → Except SyntaxError Lexer
  | 0 => .ok { lx with ready := true }
  | fuel + 1 => do
    let (wait, lx) ← lx.mustWait
    if wait then (← lx.fetchNext).fill fuel else .ok { lx with ready := true }

/-- The next token, reading ahead as far as needed. -/
def Lexer.peek (lx : Lexer) : Except SyntaxError (Token × Lexer) := do
  let lx ← if lx.ready then pure lx else lx.fill (4 * lx.cur.rest.length + 16)
  match lx.queue with
  | t :: _ => .ok (t, lx)
  | [] => .ok (⟨.streamEnd, lx.cur.mark, lx.cur.mark⟩, lx)

/-- Hands out the head of the queue. -/
def Lexer.advance (lx : Lexer) : Lexer :=
  { lx with queue := lx.queue.drop 1, taken := lx.taken + 1, ready := false }

end RepoRouting.Yaml
