import RepoRouting.Log
import RepoRouting.Log.Pattern
import RepoRouting.Number.Decimal
import RepoRouting.Text.Blank
import RepoRouting.Text.Width

/-!
# Log filters

Which log lines are shown. A filter is written as rules separated by commas (empty rules are
skipped); a rule is a level alone (`debug`), a target alone (`antmvn_repo`, which shows every
level of it), or a target and a level (`antmvn_repo::collector=info`). A level is one of
`off`, `error`, `warn`, `info`, `debug`, `trace` in any case, or a number from `0` (off) to `5`
(trace); after `=` an empty level means `trace`. A target names the topics whose target name
starts with it. A rule may also name a span in brackets, with fields in braces; log lines of
this program belong to no span, so such a rule shows nothing, and a rule that only asks for
fields without values shows the lines that have them (a line's only field is its message). A
field's value must read as a boolean, a number or a well-formed pattern.

A rule is read with blanks trimmed from its ends: it starts with a letter, a digit, `-`, `:`,
`_` or `[`, and after that a target or a level may hold any character but `=` and `[`. The
pieces it names are cut from the rule as written, at the positions they have in the trimmed
rule, so blanks in front of a rule shift them (` debug` names the target ` debug`, which no
topic has); a piece that would cut a character in two does not read.

Of the rules that apply to a line, the most specific one decides: a rule with a longer target
before one with a shorter target, and a rule with a target before one without; among rules of
equal standing, the last one written replaces the others. A line that no rule applies to is
not shown.

The topics' target names are those a filter writes to select them: loading settings is
`antmvn_core::settings`, deriving ids `antmvn_repo::id`, collecting repositories
`antmvn_repo::collector`, decrypting credentials `antmvn_repo::credentials` and preparing a
session `antmvn_repo::session`.

A shown line is written as its level, right-aligned in five columns, a space and its message.
-/

namespace RepoRouting

/-- The name a filter selects a topic by. -/
def Topic.target : Topic → String
  | .settings => "antmvn_core::settings"
  | .ids => "antmvn_repo::id"
  | .collection => "antmvn_repo::collector"
  | .credentials => "antmvn_repo::credentials"
  | .session => "antmvn_repo::session"

/-- The most detailed level a rule shows: nothing, or every level up to one. -/
inductive Threshold where
  | off
  | upTo (l : Level)
deriving DecidableEq, Repr, Inhabited

/-- Whether a threshold shows a level. -/
def Threshold.shows : Threshold → Level → Bool
  | .off, _ => false
  | .upTo t, l => l.rank ≤ t.rank

/-- A threshold from a number from `0` to `5`. -/
def Threshold.ofNumber : Nat → Option Threshold
  | 0 => some .off
  | 1 => some (.upTo .error)
  | 2 => some (.upTo .warn)
  | 3 => some (.upTo .info)
  | 4 => some (.upTo .debug)
  | 5 => some (.upTo .trace)
  | _ => none

/-- A threshold as written: a number (with an optional `+`), a level name in any case, or
nothing, which means `error`. -/
def Threshold.parse? (s : String) : Option Threshold :=
  let digits := if s.startsWith "+" then s.drop 1 else s.toSlice
  if !digits.isEmpty && digits.all Char.isDigit then
    match digits.toString.toNat? with
    | some n => Threshold.ofNumber n
    | none => none
  else
    match s.toLower with
    | "" => some (.upTo .error)
    | "error" => some (.upTo .error)
    | "warn" => some (.upTo .warn)
    | "info" => some (.upTo .info)
    | "debug" => some (.upTo .debug)
    | "trace" => some (.upTo .trace)
    | "off" => some .off
    | _ => none

/-- A field a rule asks for: its name, and whether it asks for a value. -/
structure FieldRule where
  name : String
  valued : Bool
deriving DecidableEq, Repr, Inhabited

/-- One rule of a filter. -/
structure LogRule where
  target : Option String := none
  span : Option String := none
  fields : List FieldRule := []
  threshold : Threshold := .upTo .trace
deriving DecidableEq, Repr, Inhabited

/-- Whether a character may start a rule that is no span. -/
def isTargetChar (c : Char) : Bool := c == '-' || c == ':' || c == '_' || Text.isLetterOrNumber c

/-- Where the reading of a rule stands; positions are byte offsets. -/
inductive RuleState where
  | start
  | levelOrTarget (start : Nat)
  | span (start : Nat)
  | field (start : Nat)
  | fields
  | target
  | level (start : Nat)
deriving Repr, Inhabited

/-- Whether a field's value reads: a boolean, a number, or a well-formed pattern. -/
def fieldValueReads (v : String) : Bool :=
  v == "true" || v == "false" || (Number.Decimal.read? v).isSome || Log.Pattern.wellFormed v

/-- A field asked for, as written (`name` or `name=value`; what follows a second `=` is
not read). -/
def FieldRule.parse? (s : String) : Option FieldRule :=
  if s.isEmpty then none
  else
    match s.splitOn "=" with
    | [name] => some ⟨name, false⟩
    | name :: value :: _ => if fieldValueReads value then some ⟨name, true⟩ else none
    | [] => none

/-- The threshold after `=`: empty means every level. -/
def levelAfterEquals? (s : String) : Option Threshold :=
  if s.isEmpty then some (.upTo .trace) else Threshold.parse? s

/-- A rule as written, seen through the text it is cut from: `piece a b` is the text
between two byte offsets and `rest a` the text from one, each if it cuts no character. -/
structure RuleText where
  piece : Nat → Nat → Option String
  rest : Nat → Option String

/-- Reads the characters of a trimmed rule from byte offset `i`, in state `st`. -/
def readRule (text : RuleText) (r : LogRule) : Nat → RuleState → List Char → Option LogRule
  | _, st, [] =>
    match st with
    | .levelOrTarget start => do
      let word ← text.rest start
      match Threshold.parse? word with
      | some t => some { r with threshold := t }
      | none => some { r with target := some word }
    | .level start => do
      let t ← levelAfterEquals? (← text.rest start)
      some { r with threshold := t }
    | .target => some r
    | _ => none
  | i, st, c :: cs =>
    let next := i + c.utf8Size
    match st with
    | .start =>
      if c == '[' then readRule text r next (.span next) cs
      else if isTargetChar c then readRule text r next (.levelOrTarget i) cs
      else none
    | .levelOrTarget start =>
      if c == '=' then do
        let t ← text.piece start i
        readRule text { r with target := some t } next (.level next) cs
      else if c == '[' then do
        let t ← text.piece start i
        readRule text { r with target := some t } next (.span next) cs
      else readRule text r next st cs
    | .target =>
      if c == '=' then readRule text r next (.level next) cs else none
    | .span start =>
      if c == ']' then do
        let name ← text.piece start i
        readRule text { r with span := some name } next .target cs
      else if c == '\x7b' then do
        let name ← text.piece start i
        readRule text { r with span := if name.isEmpty then none else some name } next
          (.field next) cs
      else readRule text r next st cs
    | .field start =>
      if c == '\x7d' || c == ',' then do
        let f ← FieldRule.parse? (← text.piece start i)
        readRule text { r with fields := r.fields ++ [f] } next
          (if c == ',' then .field next else .fields) cs
      else readRule text r next st cs
    | .fields => if c == ']' then readRule text r next .target cs else none
    | .level _ => readRule text r next st cs

/-- The text between two byte offsets of a text, if both fall between characters. -/
def bytePiece (bytes : ByteArray) (a b : Nat) : Option String :=
  String.fromUTF8? (bytes.extract a b)

/-- A rule as written. -/
def LogRule.parse? (s : String) : Option LogRule :=
  let bytes := s.toUTF8
  let text : RuleText := ⟨bytePiece bytes, fun a => bytePiece bytes a bytes.size⟩
  readRule text {} 0 .start (Text.trimList s.toList)

/-- Whether a rule can apply to lines outside any span: it names no span and asks for no
field value. -/
def LogRule.applicable (r : LogRule) : Bool :=
  r.span.isNone && !r.fields.any (·.valued)

/-- Whether a rule applies to a line of a topic: the topic's target name starts with the
rule's target, and every field it asks for is the message. -/
def LogRule.covers (r : LogRule) (t : Topic) : Bool :=
  (match r.target with
    | some p => t.target.startsWith p
    | none => true) &&
    r.fields.all (·.name == "message")

/-- How specific a rule is, most specific last: the length of its target in bytes (none
below any), the number of its fields, then its target and field names. -/
def LogRule.rank (r : LogRule) : Option Nat × Nat × Option String × List String :=
  (r.target.map (·.utf8ByteSize), r.fields.length, r.target, r.fields.map (·.name))

/-- Compares two optional values, none first. -/
def compareOption (cmp : α → α → Ordering) : Option α → Option α → Ordering
  | none, none => .eq
  | none, some _ => .lt
  | some _, none => .gt
  | some a, some b => cmp a b

/-- Compares two lists lexicographically. -/
def compareList (cmp : α → α → Ordering) : List α → List α → Ordering
  | [], [] => .eq
  | [], _ :: _ => .lt
  | _ :: _, [] => .gt
  | a :: as, b :: bs => (cmp a b).then (compareList cmp as bs)

/-- Compares how specific two rules are. -/
def LogRule.compareRank (a b : LogRule) : Ordering :=
  let (l₁, n₁, t₁, f₁) := a.rank
  let (l₂, n₂, t₂, f₂) := b.rank
  (compareOption compare l₁ l₂).then ((compare n₁ n₂).then
    ((compareOption compare t₁ t₂).then (compareList compare f₁ f₂)))

/-- Places a rule among rules ordered from the most specific: a rule of equal standing is
replaced. -/
def insertRule (r : LogRule) : List LogRule → List LogRule
  | [] => [r]
  | q :: qs =>
    match r.compareRank q with
    | .eq => r :: qs
    | .gt => r :: q :: qs
    | .lt => q :: insertRule r qs

/-- A log filter: its applicable rules, the most specific first. -/
structure LogFilter where
  rules : List LogRule
deriving DecidableEq, Repr, Inhabited

namespace LogFilter

/-- The filter of a list of rules. -/
def ofRules (rs : List LogRule) : LogFilter :=
  ⟨rs.foldl (fun acc r => if r.applicable then insertRule r acc else acc) []⟩

/-- A filter as written, if every rule reads. -/
def parse? (s : String) : Option LogFilter :=
  ((s.splitOn ",").filter (· != "")).mapM LogRule.parse? |>.map ofRules

/-- The filter that shows every topic up to a level. -/
def upTo (l : Level) : LogFilter := ofRules [{ threshold := .upTo l }]

/-- Whether a filter shows a line. -/
def shows (f : LogFilter) (line : LogLine) : Bool :=
  match f.rules.find? (·.covers line.topic) with
  | some r => r.threshold.shows line.level
  | none => false

end LogFilter

/-- A log line as written: the level right-aligned in five columns, a space, the message. -/
def LogLine.render (line : LogLine) : String :=
  let name := line.level.name
  String.ofList (List.replicate (5 - name.length) ' ') ++ name ++ " " ++ line.message

end RepoRouting
