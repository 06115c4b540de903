import RepoRouting.Number.Binary64
/-!
# Documents as trees

Configuration reaches the library either as JSON values or as YAML text. Both become a
`Node` tree: scalars, sequences and mappings, each with the place where it starts.

A JSON scalar arrives with its type (`null`, a boolean, an integer, a fraction, a string).
A YAML scalar arrives as it was written (`Scalar.text`): its characters, whether it was
plain, and its tag; a reader decides what it means when it reads it. When YAML text breaks
off with a syntax error, the tree ends in a `Node.cut`, and a container that was still open
is marked as not `closed`: a reader that needs more than the text gives meets the error
there and nowhere before.
-/

namespace RepoRouting.Doc

/-- A place in a source text, counted from zero: byte offset, line and column (in
characters). -/
structure Mark where
  index : Nat := 0
  line : Nat := 0
  column : Nat := 0
deriving DecidableEq, Repr, Inhabited

/-- A place as a message shows it, counted from one. -/
def Mark.render (m : Mark) : String :=
  "line " ++ toString (m.line + 1) ++ " column " ++ toString (m.column + 1)

/-- Whether a mark is the start of the text (line and column zero). -/
def Mark.isOrigin (m : Mark) : Bool := m.line == 0 && m.column == 0

/-- A scalar of a document. The first five are typed values; `text` is a YAML scalar as
written, with whether it was plain and its resolved tag. -/
inductive Scalar where
  | null
  | bool (b : Bool)
  | int (i : Int)
  | float (x : Number.Binary64)
  | str (s : String)
  | text (s : String) (plain : Bool) (tag : Option String)
deriving DecidableEq, Repr, Inhabited

/-- A document tree. A sequence or mapping carries its YAML tag, if it has one; one that the
text left open has `closed = false`; `cut` stands where the text broke off. -/
inductive Node where
  | scalar (s : Scalar) (mark : Mark)
  | seq (items : List Node) (tag : Option String) (mark : Mark) (closed : Bool)
  | map (entries : List (Node × Node)) (tag : Option String) (mark : Mark) (closed : Bool)
  | cut
deriving Repr, Inhabited

/-- Where a node starts; a cut has no place of its own. -/
def Node.mark : Node → Mark
  | .scalar _ m => m
  | .seq _ _ m _ => m
  | .map _ _ m _ => m
  | .cut => {}

/-- A typed scalar node at the start of the text. -/
def Node.ofScalar (s : Scalar) : Node := .scalar s {}

/-- A string node. -/
def Node.ofString (s : String) : Node := .scalar (.str s) {}

/-- A complete sequence node. -/
def Node.ofList (items : List Node) : Node := .seq items none {} true

/-- A complete mapping node with string keys. -/
def Node.ofFields (fields : List (String × Node)) : Node :=
  .map (fields.map fun (k, v) => (Node.ofString k, v)) none {} true

/-- The way from the root of a document to a node: through mapping keys and sequence
indices. A key that is not a scalar is `unknown`. -/
inductive Path where
  | root
  | index (parent : Path) (i : Nat)
  | key (parent : Path) (k : String)
  | unknown (parent : Path)
deriving DecidableEq, Repr, Inhabited

/-- A path as errors show it: `mirrors[0].url`; the root alone is `.`. A child of the root
shows its own part only. -/
def Path.render : Path → String
  | .root => "."
  | .index p i => p.render ++ "[" ++ toString i ++ "]"
  | .key .root k => k
  | .key p k => p.render ++ "." ++ k
  | .unknown .root => "?"
  | .unknown p => p.render ++ ".?"

end RepoRouting.Doc
