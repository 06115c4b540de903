import RepoRouting.Doc.Node

/-!
# YAML tokens and syntax errors

The scanner turns YAML text into tokens: the markers of the stream and of documents, the
indicators of block and flow collections, keys and values, anchors, aliases, tags and scalars.
Each token carries the marks where it starts and stops.

A syntax error names its problem and the place it was found; most also name what was being
read and where that began. `SyntaxError.message` writes it the way YAML loaders report it:
the problem, its place unless it is the very start of the text, then the context and its place
when that differs from the problem's.
-/

namespace RepoRouting.Yaml

open RepoRouting.Doc

/-- How a scalar was written. -/
inductive ScalarStyle where
  | plain
  | singleQuoted
  | doubleQuoted
  | literal
  | folded
deriving DecidableEq, Repr, Inhabited

/-- What a token is. -/
inductive TokenKind where
  | streamStart
  | streamEnd
  | versionDirective (major minor : Nat)
  | tagDirective (handle pfx : String)
  | documentStart
  | documentEnd
  | blockSequenceStart
  | blockMappingStart
  | blockEnd
  | flowSequenceStart
  | flowSequenceEnd
  | flowMappingStart
  | flowMappingEnd
  | blockEntry
  | flowEntry
  | key
  | value
  | alias (name : String)
  | anchor (name : String)
  | tag (handle suffix : String)
  | scalar (text : String) (style : ScalarStyle)
deriving DecidableEq, Repr, Inhabited

/-- A token with the marks where it starts and stops. -/
structure Token where
  kind : TokenKind
  start : Mark
  stop : Mark
deriving Repr, Inhabited

/-- Why YAML text could not be read. `context` is what was being read and where it began;
`offset` is the byte offset of a character refused before scanning. -/
structure SyntaxError where
  problem : String
  mark : Mark := {}
  context : Option (String × Mark) := none
  offset : Nat := 0
deriving Repr, Inhabited

/-- A syntax error as loaders report it. -/
def SyntaxError.message (e : SyntaxError) : String :=
  let place :=
    if !e.mark.isOrigin then " at " ++ e.mark.render
    else if e.offset != 0 then " at position " ++ toString e.offset
    else ""
  let context :=
    match e.context with
    | none => ""
    | some (what, m) =>
      let shown := !m.isOrigin && (m.line != e.mark.line || m.column != e.mark.column)
      ", " ++ what ++ (if shown then " at " ++ m.render else "")
  e.problem ++ place ++ context

/-- An error met while reading something that began at `start`; the problem is at `here`. -/
def SyntaxError.within (what : String) (start : Mark) (problem : String) (here : Mark) :
    SyntaxError :=
  { problem, mark := here, context := some (what, start) }

end RepoRouting.Yaml
