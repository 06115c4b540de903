import RepoRouting.Yaml.Event
import RepoRouting.Doc.Decode

/-!
# Loading a YAML document into a tree

Configuration files hold one YAML document. `load` reads the events of the first document of a
text, as far as the text allows, and `Loaded.root` builds its tree. An alias stands for the node
that carries its anchor, as that node was written: its marks are those of the anchored node, so
errors found through an alias point at the anchor. An alias to an anchor not yet seen ends the
document with an error. Anchors are numbered as the loader numbers them (`Anchors`), so an
anchor name used twice can make an alias of another name stand for a later node.

A text with no document at all holds an empty plain scalar, which reads as an empty mapping.

`Loaded.read` reads the tree and reports what went wrong in the order a streaming reader meets
it: an error in the data that lies before the point where the text broke off wins; reaching that
point gives the syntax error; a complete first document followed by anything but the end of the
text is refused as holding more than one document.
-/

namespace RepoRouting.Yaml

open RepoRouting.Doc

/-- An event of a loaded document. An alias points to the index of the event that carries its
anchor. -/
inductive Item where
  | scalar (text : String) (plain : Bool) (tag : Option String)
  | alias (target : Nat)
  | sequenceStart (tag : Option String)
  | sequenceEnd
  | mappingStart (tag : Option String)
  | mappingEnd
deriving Repr, Inhabited

/-- The first document of a text: its events with their marks, the error that ended it early
if any, and whether more follows it. -/
structure Loaded where
  items : Array (Item × Mark)
  error : Option String := none
  more : Bool := false

/-- The byte offset of the first character that YAML text may not hold, if there is one. -/
def firstControl? : Nat → List Char → Option Nat
  | _, [] => none
  | offset, c :: rest => if isPrintable c then firstControl? (offset + c.utf8Size) rest else some offset

/-- Whether the parser's next event is the end of the stream. -/
def Parser.atStreamEnd (p : Parser) : Bool :=
  match p.next with
  | .ok (.streamEnd, _, _) => true
  | _ => false

/-- The anchors of a document as they are numbered while it loads. Setting an anchor gives
its name the number of names known before (a name set again keeps no number of its own, so
it may share the number of a later name), and that number points to the event set last with
it. An alias finds the event through the number of its name. -/
structure Anchors where
  names : List (String × Nat) := []
  targets : List (Nat × Nat) := []
deriving Repr, Inhabited

/-- Records the anchor of the event about to be stored at `index`. -/
def Anchors.note (a : Anchors) (anchor : Option String) (index : Nat) : Anchors :=
  match anchor with
  | some name =>
    let number := a.names.length
    { names := (name, number) :: a.names.filter (·.1 != name),
      targets := (number, index) :: a.targets.filter (·.1 != number) }
  | none => a

/-- The index of the event an alias stands for. -/
def Anchors.target? (a : Anchors) (name : String) : Option Nat :=
  (a.names.lookup name).bind fun n => a.targets.lookup n

/-- Reads the events of the first document. -/
def Parser.loadItems (p : Parser) : Nat → Array (Item × Mark) → Anchors → Loaded
  | 0, items, _ => { items }
  | fuel + 1, items, anchors =>
    match p.next with
    | .error e => { items, error := some e.message }
    | .ok (ev, m, p) =>
      let store (item : Item) (anchor : Option String) :=
        p.loadItems fuel (items.push (item, m)) (anchors.note anchor items.size)
      match ev with
      | .streamStart | .documentStart => p.loadItems fuel items anchors
      | .streamEnd => { items := if items.isEmpty then #[(.scalar "" true none, m)] else items }
      | .documentEnd => { items, more := !p.atStreamEnd }
      | .alias name =>
        match anchors.target? name with
        | some i => p.loadItems fuel (items.push (.alias i, m)) anchors
        | none =>
          { items, error := some ("unknown anchor" ++ (if m.isOrigin then "" else " at " ++ m.render)) }
      | .scalar anchor tag text style => store (.scalar text (style == .plain) tag) anchor
      | .sequenceStart anchor tag => store (.sequenceStart tag) anchor
      | .sequenceEnd => store .sequenceEnd none
      | .mappingStart anchor tag => store (.mappingStart tag) anchor
      | .mappingEnd => store .mappingEnd none

/-- Loads the first document of a text. A character that YAML text may not hold stops it
before any event. A leading byte order mark is dropped. -/
def load (text : String) : Loaded :=
  let (cs, base) := match text.toList with
    | '\uFEFF' :: rest => (rest, 3)
    | cs => (cs, 0)
  match firstControl? base cs with
  | some offset =>
    { items := #[],
      error := some { problem := "control characters are not allowed", offset : SyntaxError }.message }
  | none => (Parser.ofCursor (Cursor.ofList cs)).loadItems (8 * cs.length + 32) #[] {}

mutual
/-- The node whose event is at index `i`, and the index after it. A collection left open by
the end of the events is not closed. -/
def nodeAt (items : Array (Item × Mark)) : Nat → Nat → Node × Nat
  | 0, i => (.cut, i)
  | fuel + 1, i =>
    match items[i]? with
    | none => (.cut, i)
    | some (.scalar text plain tag, m) => (.scalar (.text text plain tag) m, i + 1)
    | some (.alias target, _) => ((nodeAt items fuel target).1, i + 1)
    | some (.sequenceStart tag, m) => sequenceFrom items fuel (i + 1) [] tag m
    | some (.mappingStart tag, m) => mappingFrom items fuel (i + 1) [] tag m
    | some (_, _) => (.cut, i)

/-- The items of a sequence from index `i` on. -/
def sequenceFrom (items : Array (Item × Mark)) :
    Nat → Nat → List Node → Option String → Mark → Node × Nat
  | 0, i, acc, tag, m => (.seq acc.reverse tag m false, i)
  | fuel + 1, i, acc, tag, m =>
    match items[i]? with
    | none => (.seq acc.reverse tag m false, i)
    | some (.sequenceEnd, _) => (.seq acc.reverse tag m true, i + 1)
    | some _ =>
      let (n, j) := nodeAt items fuel i
      sequenceFrom items fuel j (n :: acc) tag m

/-- The entries of a mapping from index `i` on. -/
def mappingFrom (items : Array (Item × Mark)) :
    Nat → Nat → List (Node × Node) → Option String → Mark → Node × Nat
  | 0, i, acc, tag, m => (.map acc.reverse tag m false, i)
  | fuel + 1, i, acc, tag, m =>
    match items[i]? with
    | none => (.map acc.reverse tag m false, i)
    | some (.mappingEnd, _) => (.map acc.reverse tag m true, i + 1)
    | some _ =>
      let (k, j) := nodeAt items fuel i
      let (v, j') := nodeAt items fuel j
      mappingFrom items fuel j' ((k, v) :: acc) tag m
end

/-- The tree of the loaded document. -/
def Loaded.root (d : Loaded) : Node :=
  (nodeAt d.items (4 * d.items.size + 8) 0).1

/-- The message of a document that holds more than one. -/
def moreThanOneDocument : String :=
  "deserializing from YAML containing more than one document is not supported"

/-- Reads the loaded document with `read`: a data error before the break wins, then the
syntax error, then a second document. -/
def Loaded.read (d : Loaded) (read : Node → Except DecodeError α) : Except String α :=
  match read d.root with
  | .error (.rule msg place) => .error (DecodeError.located msg place)
  | .error .broken => .error (d.error.getD "EOF while parsing a value")
  | .ok a =>
    match d.error with
    | some e => .error e
    | none => if d.more then .error moreThanOneDocument else .ok a

end RepoRouting.Yaml
