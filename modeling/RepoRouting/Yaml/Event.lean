import RepoRouting.Yaml.Lexer

/-!
# YAML events

The parser reads tokens and gives the events of a YAML stream in order: the stream and its
documents start and end, collections start and end, and scalars and aliases stand for nodes,
each with the mark where it starts. An anchor and a tag are properties of the node event that
follows them; a tag's handle is replaced by the prefix that the document's `%TAG` directives
(or the two standard ones, `!` and `!!`) give it.

The parser is a state machine with a stack of states to return to, as the grammar of block and
flow collections nests. Where the grammar allows a node to be left out (an empty value, a key
with no text) it gives an empty plain scalar.
-/

namespace RepoRouting.Yaml

open RepoRouting.Doc

/-- An event of a YAML stream. -/
inductive Event where
  | streamStart
  | streamEnd
  | documentStart
  | documentEnd
  | alias (name : String)
  | scalar (anchor tag : Option String) (text : String) (style : ScalarStyle)
  | sequenceStart (anchor tag : Option String)
  | sequenceEnd
  | mappingStart (anchor tag : Option String)
  | mappingEnd
deriving Repr, Inhabited

/-- Where the parser is in the grammar. -/
inductive Phase where
  | streamStart
  | implicitDocumentStart
  | documentStart
  | documentContent
  | documentEnd
  | blockNode
  | blockSequenceFirstEntry
  | blockSequenceEntry
  | indentlessSequenceEntry
  | blockMappingFirstKey
  | blockMappingKey
  | blockMappingValue
  | flowSequenceFirstEntry
  | flowSequenceEntry
  | flowSequenceEntryMappingKey
  | flowSequenceEntryMappingValue
  | flowSequenceEntryMappingEnd
  | flowMappingFirstKey
  | flowMappingKey
  | flowMappingValue
  | flowMappingEmptyValue
  | finished
deriving DecidableEq, Repr, Inhabited

/-- The tag handles every document knows. -/
def standardTagHandles : List (String × String) :=
  [("!", "!"), ("!!", "tag:yaml.org,2002:")]

/-- The state of the parser: the lexer, the current state and the states to return to, the
marks where the open collections began, and the tag handles of the current document. -/
structure Parser where
  lexer : Lexer
  phase : Phase := .streamStart
  returns : List Phase := []
  marks : List Mark := []
  handles : List (String × String) := []

/-- What one step of the parser gives: an event with its mark, and the parser after it. -/
abbrev Step := Except SyntaxError (Event × Mark × Parser)

/-- The parser at the start of a text. -/
def Parser.ofCursor (c : Cursor) : Parser := { lexer := Lexer.ofCursor c }

/-- The next token. -/
def Parser.peek (p : Parser) : Except SyntaxError (Token × Parser) := do
  let (t, lx) ← p.lexer.peek
  .ok (t, { p with lexer := lx })

/-- Consumes the next token. -/
def Parser.skip (p : Parser) : Parser := { p with lexer := p.lexer.advance }

/-- Returns to the state on top of the stack. -/
def Parser.pop (p : Parser) : Parser :=
  match p.returns with
  | s :: rest => { p with phase := s, returns := rest }
  | [] => { p with phase := .finished }

/-- Pushes a state to return to. -/
def Parser.push (p : Parser) (s : Phase) : Parser := { p with returns := s :: p.returns }

/-- Drops the mark of the innermost open collection. -/
def Parser.popMark (p : Parser) : Parser := { p with marks := p.marks.drop 1 }

/-- The mark of the innermost open collection. -/
def Parser.openMark (p : Parser) : Mark := p.marks.headD {}

/-- An empty plain scalar at `m`. -/
def emptyScalar (p : Parser) (m : Mark) : Step := .ok (.scalar none none "" .plain, m, p)

/-- Whether a token is one of the given kinds (compared by constructor). -/
def TokenKind.isOneOf (k : TokenKind) (ks : List TokenKind) : Bool := ks.contains k

/-- The tag a handle and suffix stand for, by the document's handles. -/
def Parser.resolveTag (p : Parser) (start : Mark) (tagMark : Mark) (handle suffix : String) :
    Except SyntaxError String :=
  if handle.isEmpty then .ok suffix
  else
    match p.handles.find? (·.1 == handle) with
    | some (_, pfx) => .ok (pfx ++ suffix)
    | none => .error (.within "while parsing a node" start "found undefined tag handle" tagMark)

/-- Reads the anchor and tag in front of a node, in either order. Gives them with the mark
where the node starts, the mark of the tag, and the next token. -/
def Parser.properties (p : Parser) (t : Token) :
    Except SyntaxError (Option String × Option (String × String) × Mark × Token × Parser) := do
  match t.kind with
  | .anchor a =>
    let (t2, p) ← p.skip.peek
    match t2.kind with
    | .tag h s =>
      let (t3, p) ← p.skip.peek
      .ok (some a, some (h, s), t2.start, t3, p)
    | _ => .ok (some a, none, t.start, t2, p)
  | .tag h s =>
    let (t2, p) ← p.skip.peek
    match t2.kind with
    | .anchor a =>
      let (t3, p) ← p.skip.peek
      .ok (some a, some (h, s), t.start, t3, p)
    | _ => .ok (none, some (h, s), t.start, t2, p)
  | _ => .ok (none, none, t.start, t, p)

/-- Parses a node: an alias, a scalar, or the start of a collection. In a block, an indentless
sequence (entries at the indentation of the mapping that holds it) is allowed where
`indentless` says so. -/
def Parser.node (p : Parser) (block indentless : Bool) : Step := do
  let (t, p) ← p.peek
  match t.kind with
  | .alias name => .ok (.alias name, t.start, p.pop.skip)
  | _ =>
    let start := t.start
    let (anchor, tagged, tagMark, t, p) ← p.properties t
    let tag ← match tagged with
      | none => pure none
      | some (h, s) => some <$> p.resolveTag start tagMark h s
    match t.kind with
    | .blockEntry =>
      if indentless then
        .ok (.sequenceStart anchor tag, start, { p with phase := .indentlessSequenceEntry })
      else fallback p start anchor tag t
    | .scalar text style => .ok (.scalar anchor tag text style, start, p.pop.skip)
    | .flowSequenceStart =>
      .ok (.sequenceStart anchor tag, start, { p with phase := .flowSequenceFirstEntry })
    | .flowMappingStart =>
      .ok (.mappingStart anchor tag, start, { p with phase := .flowMappingFirstKey })
    | .blockSequenceStart =>
      if block then .ok (.sequenceStart anchor tag, start, { p with phase := .blockSequenceFirstEntry })
      else fallback p start anchor tag t
    | .blockMappingStart =>
      if block then .ok (.mappingStart anchor tag, start, { p with phase := .blockMappingFirstKey })
      else fallback p start anchor tag t
    | _ => fallback p start anchor tag t
where
  /-- A node with properties and no content is an empty scalar; else there is no node. -/
  fallback (p : Parser) (start : Mark) (anchor tag : Option String) (t : Token) : Step :=
    if anchor.isSome || tag.isSome then .ok (.scalar anchor tag "" .plain, start, p.pop)
    else
      .error (.within (if block then "while parsing a block node" else "while parsing a flow node")
        start "did not find expected node content" t.start)

/-- Reads the directives in front of a document and sets its tag handles. -/
def Parser.directives (p : Parser) : Nat → Bool → List (String × String) →
    Except SyntaxError Parser
  | 0, _, handles => .ok { p with handles := handles ++ standardTagHandles }
  | fuel + 1, seenVersion, handles => do
    let (t, p) ← p.peek
    match t.kind with
    | .versionDirective major minor =>
      if seenVersion then .error { problem := "found duplicate %YAML directive", mark := t.start }
      else if major != 1 || (minor != 1 && minor != 2) then
        .error { problem := "found incompatible YAML document", mark := t.start }
      else p.skip.directives fuel true handles
    | .tagDirective handle pfx =>
      if handles.any (·.1 == handle) then
        .error { problem := "found duplicate %TAG directive", mark := t.start }
      else p.skip.directives fuel seenVersion (handles ++ [(handle, pfx)])
    | _ =>
      let extra := standardTagHandles.filter fun (h, _) => !handles.any (·.1 == h)
      .ok { p with handles := handles ++ extra }

/-- Steps over `...` markers between documents. -/
def Parser.skipDocumentEnds (p : Parser) : Nat → Except SyntaxError (Token × Parser)
  | 0 => p.peek
  | fuel + 1 => do
    let (t, p) ← p.peek
    if t.kind == .documentEnd then p.skip.skipDocumentEnds fuel else .ok (t, p)

/-- The start of a document (or the end of the stream). The first document may start without
a marker; a later one needs `---`. -/
def Parser.documentStart (p : Parser) (implicit : Bool) : Step := do
  let (t, p) ← if implicit then p.peek else p.skipDocumentEnds (p.lexer.cur.rest.length + 1)
  let bare := !t.kind.isOneOf [.streamEnd, .documentStart] &&
    !(t.kind matches .versionDirective .. | .tagDirective ..)
  if implicit && bare then
    let p ← p.directives 0 false []
    .ok (.documentStart, t.start, { (p.push .documentEnd) with phase := .blockNode })
  else if t.kind != .streamEnd then
    let start := t.start
    let p ← p.directives (p.lexer.cur.rest.length + 1) false []
    let (t, p) ← p.peek
    if t.kind != .documentStart then
      .error { problem := "did not find expected <document start>", mark := t.start }
    else .ok (.documentStart, start, { (p.push .documentEnd) with phase := .documentContent }.skip)
  else .ok (.streamEnd, t.start, { p with phase := .finished }.skip)

/-- The content of a document that started with `---`; it may be empty. -/
def Parser.documentContent (p : Parser) : Step := do
  let (t, p) ← p.peek
  if t.kind.isOneOf [.documentStart, .documentEnd, .streamEnd] ||
      (t.kind matches .versionDirective .. | .tagDirective ..) then
    emptyScalar p.pop t.start
  else p.node true false

/-- The end of a document, with or without `...`. -/
def Parser.documentEnd (p : Parser) : Step := do
  let (t, p) ← p.peek
  let p := if t.kind == .documentEnd then p.skip else p
  .ok (.documentEnd, t.start, { p with phase := .documentStart, handles := [] })

/-- An entry of a block sequence, or its end. -/
def Parser.blockSequenceEntry (p : Parser) (first : Bool) : Step := do
  let p ← if first then do
      let (t, p) ← p.peek
      pure { p with marks := t.start :: p.marks }.skip
    else pure p
  let (t, p) ← p.peek
  match t.kind with
  | .blockEntry =>
    let (t2, p) ← p.skip.peek
    if t2.kind.isOneOf [.blockEntry, .blockEnd] then
      emptyScalar { p with phase := .blockSequenceEntry } t.stop
    else (p.push .blockSequenceEntry).node true false
  | .blockEnd => .ok (.sequenceEnd, t.start, p.pop.popMark.skip)
  | _ =>
    .error (.within "while parsing a block collection" p.openMark
      "did not find expected '-' indicator" t.start)

/-- An entry of a sequence whose entries stand at the indentation of the mapping that holds
it, or its end. -/
def Parser.indentlessSequenceEntry (p : Parser) : Step := do
  let (t, p) ← p.peek
  match t.kind with
  | .blockEntry =>
    let (t2, p) ← p.skip.peek
    if t2.kind.isOneOf [.blockEntry, .key, .value, .blockEnd] then
      emptyScalar { p with phase := .indentlessSequenceEntry } t.stop
    else (p.push .indentlessSequenceEntry).node true false
  | _ => .ok (.sequenceEnd, t.start, p.pop)

/-- A key of a block mapping, or its end. -/
def Parser.blockMappingKey (p : Parser) (first : Bool) : Step := do
  let p ← if first then do
      let (t, p) ← p.peek
      pure { p with marks := t.start :: p.marks }.skip
    else pure p
  let (t, p) ← p.peek
  match t.kind with
  | .key =>
    let (t2, p) ← p.skip.peek
    if t2.kind.isOneOf [.key, .value, .blockEnd] then
      emptyScalar { p with phase := .blockMappingValue } t.stop
    else (p.push .blockMappingValue).node true true
  | .blockEnd => .ok (.mappingEnd, t.start, p.pop.popMark.skip)
  | _ =>
    .error (.within "while parsing a block mapping" p.openMark "did not find expected key" t.start)

/-- A value of a block mapping; a missing value is empty. -/
def Parser.blockMappingValue (p : Parser) : Step := do
  let (t, p) ← p.peek
  match t.kind with
  | .value =>
    let (t2, p) ← p.skip.peek
    if t2.kind.isOneOf [.key, .value, .blockEnd] then
      emptyScalar { p with phase := .blockMappingKey } t.stop
    else (p.push .blockMappingKey).node true true
  | _ => emptyScalar { p with phase := .blockMappingKey } t.start

/-- An entry of a flow sequence, or its end. An entry `k: v` is a mapping of one pair. -/
def Parser.flowSequenceEntry (p : Parser) (first : Bool) : Step := do
  let p ← if first then do
      let (t, p) ← p.peek
      pure { p with marks := t.start :: p.marks }.skip
    else pure p
  let (t, p) ← p.peek
  let finish (t : Token) (p : Parser) : Step := .ok (.sequenceEnd, t.start, p.pop.popMark.skip)
  if t.kind == .flowSequenceEnd then finish t p
  else
    let (t, p) ←
      if first then pure (t, p)
      else if t.kind == .flowEntry then p.skip.peek
      else
        .error (.within "while parsing a flow sequence" p.openMark
          "did not find expected ',' or ']'" t.start)
    if t.kind == .key then
      .ok (.mappingStart none none, t.start, { p with phase := .flowSequenceEntryMappingKey }.skip)
    else if t.kind == .flowSequenceEnd then finish t p
    else (p.push .flowSequenceEntry).node false false

/-- The key of a one-pair mapping in a flow sequence. -/
def Parser.flowSequenceEntryMappingKey (p : Parser) : Step := do
  let (t, p) ← p.peek
  if t.kind.isOneOf [.value, .flowEntry, .flowSequenceEnd] then
    emptyScalar { p with phase := .flowSequenceEntryMappingValue } t.start
  else (p.push .flowSequenceEntryMappingValue).node false false

/-- The value of a one-pair mapping in a flow sequence. -/
def Parser.flowSequenceEntryMappingValue (p : Parser) : Step := do
  let (t, p) ← p.peek
  if t.kind == .value then
    let (t2, p) ← p.skip.peek
    if t2.kind.isOneOf [.flowEntry, .flowSequenceEnd] then
      emptyScalar { p with phase := .flowSequenceEntryMappingEnd } t2.start
    else (p.push .flowSequenceEntryMappingEnd).node false false
  else emptyScalar { p with phase := .flowSequenceEntryMappingEnd } t.start

/-- The end of a one-pair mapping in a flow sequence. -/
def Parser.flowSequenceEntryMappingEnd (p : Parser) : Step := do
  let (t, p) ← p.peek
  .ok (.mappingEnd, t.start, { p with phase := .flowSequenceEntry })

/-- A key of a flow mapping, or its end. -/
def Parser.flowMappingKey (p : Parser) (first : Bool) : Step := do
  let p ← if first then do
      let (t, p) ← p.peek
      pure { p with marks := t.start :: p.marks }.skip
    else pure p
  let (t, p) ← p.peek
  let finish (t : Token) (p : Parser) : Step := .ok (.mappingEnd, t.start, p.pop.popMark.skip)
  if t.kind == .flowMappingEnd then finish t p
  else
    let (t, p) ←
      if first then pure (t, p)
      else if t.kind == .flowEntry then p.skip.peek
      else
        .error (.within "while parsing a flow mapping" p.openMark
          "did not find expected ',' or '\x7d'" t.start)
    if t.kind == .key then
      let (t2, p) ← p.skip.peek
      if t2.kind.isOneOf [.value, .flowEntry, .flowMappingEnd] then
        emptyScalar { p with phase := .flowMappingValue } t2.start
      else (p.push .flowMappingValue).node false false
    else if t.kind == .flowMappingEnd then finish t p
    else (p.push .flowMappingEmptyValue).node false false

/-- A value of a flow mapping; a key written alone has an empty value. -/
def Parser.flowMappingValue (p : Parser) (empty : Bool) : Step := do
  let (t, p) ← p.peek
  if empty then emptyScalar { p with phase := .flowMappingKey } t.start
  else if t.kind == .value then
    let (t2, p) ← p.skip.peek
    if t2.kind.isOneOf [.flowEntry, .flowMappingEnd] then
      emptyScalar { p with phase := .flowMappingKey } t2.start
    else (p.push .flowMappingKey).node false false
  else emptyScalar { p with phase := .flowMappingKey } t.start

/-- The start of the stream. -/
def Parser.streamStart (p : Parser) : Step := do
  let (t, p) ← p.peek
  if t.kind != .streamStart then
    .error { problem := "did not find expected <stream-start>", mark := t.start }
  else .ok (.streamStart, t.start, { p with phase := .implicitDocumentStart }.skip)

/-- The next event of the stream. After the end of the stream it stays at the end. -/
def Parser.next (p : Parser) : Step :=
  match p.phase with
  | .streamStart => p.streamStart
  | .implicitDocumentStart => p.documentStart true
  | .documentStart => p.documentStart false
  | .documentContent => p.documentContent
  | .documentEnd => p.documentEnd
  | .blockNode => p.node true false
  | .blockSequenceFirstEntry => p.blockSequenceEntry true
  | .blockSequenceEntry => p.blockSequenceEntry false
  | .indentlessSequenceEntry => p.indentlessSequenceEntry
  | .blockMappingFirstKey => p.blockMappingKey true
  | .blockMappingKey => p.blockMappingKey false
  | .blockMappingValue => p.blockMappingValue
  | .flowSequenceFirstEntry => p.flowSequenceEntry true
  | .flowSequenceEntry => p.flowSequenceEntry false
  | .flowSequenceEntryMappingKey => p.flowSequenceEntryMappingKey
  | .flowSequenceEntryMappingValue => p.flowSequenceEntryMappingValue
  | .flowSequenceEntryMappingEnd => p.flowSequenceEntryMappingEnd
  | .flowMappingFirstKey => p.flowMappingKey true
  | .flowMappingKey => p.flowMappingKey false
  | .flowMappingValue => p.flowMappingValue false
  | .flowMappingEmptyValue => p.flowMappingValue true
  | .finished => .ok (.streamEnd, p.lexer.cur.mark, p)

end RepoRouting.Yaml
