import RepoRouting.Cli.Help
import RepoRouting.Text.Similarity

/-!
# Reading the command line

`readCommandLine` reads the arguments of the program into the command they ask for, or into
the text the program prints instead: a help or version text, or a usage error.

The arguments of a command are read from left to right:

* a subcommand's name hands the rest to the subcommand (`help` prints the help of the
  commands named after it);
* `--` makes every later argument positional;
* `--name` or `--name=value` is a long option, `-abc` a cluster of short ones, the last of
  which may take the rest of the cluster (or the rest after `=`) as its value;
* an option that takes a value and got none takes the next argument, unless that one looks
  like an option itself;
* anything else is the next positional argument.

A value waits until the next option or argument is met before it is checked, so a missing
value is reported there; help and version are printed as soon as they are met. At the end the
required arguments must be there, a command with subcommands needs one, and the program given
nothing at all prints its help as an error.

A usage error starts with `error: `, says what is wrong, may suggest what was meant (an
option or a subcommand whose name is similar), shows a usage line, and ends by pointing to
`--help`.
-/

namespace RepoRouting.Cli

open RepoRouting.Text

/-- Why the command line runs no command: a text to print as asked (help or version), or a
text to print as an error. -/
inductive Interruption where
  | shows (text : String)
  | refuses (text : String)
deriving DecidableEq, Repr, Inhabited

/-- A usage error: what is wrong, the subcommands and the option that may have been meant,
further tips, the usage line to show, and whether to point to `--help`. -/
structure UsageError where
  message : String
  similarCommands : List String := []
  similarOption : Option String := none
  tips : List String := []
  usage : Option String := none
  pointsToHelp : Bool := true
deriving Repr, Inhabited

/-- A quoted name. -/
def quoted (s : String) : String := "'" ++ s ++ "'"

/-- The text of a usage error. -/
def UsageError.render (e : UsageError) : String :=
  let commands :=
    match e.similarCommands with
    | [] => ""
    | [one] => "\n\n  tip: a similar subcommand exists: " ++ quoted one
    | many => "\n\n  tip: some similar subcommands exist: " ++ ", ".intercalate (many.map quoted)
  let option :=
    match e.similarOption with
    | some o => (if commands.isEmpty then "\n\n" else "\n") ++ "  tip: a similar argument exists: " ++ quoted o
    | none => ""
  let suggested := !commands.isEmpty || !option.isEmpty
  let tips :=
    if e.tips.isEmpty then ""
    else (if suggested then "" else "\n") ++ String.join (e.tips.map ("\n  tip: " ++ ·))
  let usage := match e.usage with
    | some u => "\n\nUsage: " ++ u
    | none => ""
  "error: " ++ e.message ++ commands ++ option ++ tips ++ usage ++
    (if e.pointsToHelp then "\n\nFor more information, try '--help'.\n" else "\n")

/-- A usage error of a command as an interruption. -/
def CommandSpec.refuse (c : CommandSpec) (e : UsageError) : Interruption :=
  .refuses ({ e with pointsToHelp := c.hasHelpFlag }.render)

/-- What an argument read so far is: an option, or a positional argument. -/
inductive Slot where
  | option (o : OptionSpec)
  | argument (a : ArgumentSpec)
deriving Repr, Inhabited

/-- The identifier of a slot. -/
def Slot.id : Slot → String
  | .option o => o.id
  | .argument a => a.id

/-- An argument given: its identifier, its values, and whether the command line gave it. -/
structure Given where
  id : String
  values : List String
  explicit : Bool := true
deriving DecidableEq, Repr, Inhabited

/-- Where the reading of a command's arguments stands: what was given, in the order first
met; the slot whose values wait to be checked; the option that waits for a value; the index
of the next positional argument; and whether `--` was met. -/
structure Reading where
  given : List Given := []
  pending : Option (Slot × List String) := none
  expecting : Option OptionSpec := none
  position : Nat := 0
  escaped : Bool := false
deriving Repr, Inhabited

namespace Reading

/-- Whether an argument was given. -/
def has (r : Reading) (id : String) : Bool := r.given.any (·.id == id)

/-- The values of an argument. -/
def values? (r : Reading) (id : String) : Option (List String) :=
  (r.given.find? (·.id == id)).map (·.values)

/-- The identifiers of the arguments the command line gave. -/
def used (r : Reading) : List String := (r.given.filter (·.explicit)).map (·.id)

end Reading

namespace CommandSpec

/-- The error of an option or argument that got no value. -/
def missingValue (c : CommandSpec) (shown : String) : Interruption :=
  c.refuse { message := "a value is required for " ++ quoted shown ++ " but none was supplied" }

/-- Records an argument with its values: the state after, and the error met, if any. A second
use of an argument is refused and forgets the first. -/
def record (c : CommandSpec) (r : Reading) (s : Slot) (vals : List String) :
    Reading × Option Interruption :=
  let repeated (shown : String) : Reading × Option Interruption :=
    ({ r with given := r.given.filter (·.id != s.id) },
      some (c.refuse { message := "the argument " ++ quoted shown ++ " cannot be used multiple times"
                       usage := some c.usage }))
  match s with
  | .option o =>
    match o.kind with
    | .help => (r, some (.shows c.helpText))
    | .version => (r, some (.shows c.versionText))
    | .flag =>
      if r.has o.id then repeated o.display
      else ({ r with given := r.given ++ [⟨o.id, ["true"], true⟩] }, none)
    | .value _ path =>
      if vals.isEmpty then (r, some (c.missingValue o.display))
      else if r.has o.id then repeated o.display
      else
        let r' := { r with given := r.given ++ [⟨o.id, vals, true⟩] }
        if path && vals.contains "" then (r', some (c.missingValue o.display)) else (r', none)
  | .argument a =>
    if r.has a.id then repeated a.display
    else ({ r with given := r.given ++ [⟨a.id, vals, true⟩] }, none)

/-- Checks and records the values that wait, if any. -/
def settle (c : CommandSpec) (r : Reading) : Reading × Option Interruption :=
  match r.pending with
  | none => (r, none)
  | some (s, vals) => c.record { r with pending := none } s vals

/-- Settles what waits, failing on its error. -/
def settled (c : CommandSpec) (r : Reading) : Except Interruption Reading :=
  match c.settle r with
  | (r, none) => .ok r
  | (_, some e) => .error e

/-- Settles what waits, then records an argument given with its values. -/
def take (c : CommandSpec) (r : Reading) (s : Slot) (vals : List String) :
    Except Interruption Reading := do
  let r ← c.settled r
  match c.record r s vals with
  | (r, none) => .ok { r with expecting := none }
  | (_, some e) => .error e

/-- The long names of a command's options, in order. -/
def longs (c : CommandSpec) : List String := c.options.map (·.long)

/-- The option most likely meant by a long name, and the subcommand it belongs to when it is
not the command's own: of the subcommands, the one named first among the arguments that
follow. -/
def meantOption (c : CommandSpec) (name : String) (later : List String) :
    Option (String × Option String) :=
  match (likelyMeant name c.longs).getLast? with
  | some o => some (o, none)
  | none =>
    let found := (programSubcommands.filter (c.subcommands.contains ·.name)).filterMap fun s =>
      match (likelyMeant name s.longs).getLast?, later.idxOf? s.name with
      | some o, some k => some (k, o, s.name)
      | _, _ => none
    match found.foldl (fun (best : Option (Nat × String × String)) x =>
        match best with
        | some b => if x.1 < b.1 then some x else some b
        | none => some x) none with
    | some (_, o, s) => some (o, some s)
    | none => none

/-- The error of a long option the command does not have. -/
def unknownLong (c : CommandSpec) (r : Reading) (name : String) (later : List String) :
    Interruption :=
  let meant := c.meantOption name later
  let used := match meant with
    | some (o, none) =>
      match c.findLong o with
      | some spec => if r.has spec.id then r.used else r.used ++ [spec.id]
      | none => r.used
    | _ => r.used
  let trailing :=
    if meant.isNone && !r.escaped && !c.arguments.isEmpty then
      ["to pass " ++ quoted ("--" ++ name) ++ " as a value, use " ++ quoted ("-- --" ++ name)]
    else []
  let fromSub := match meant with
    | some (o, some s) => [quoted (s ++ " --" ++ o) ++ " exists"]
    | _ => []
  c.refuse { message := "unexpected argument " ++ quoted ("--" ++ name) ++ " found"
             similarOption := match meant with
               | some (o, none) => some ("--" ++ o)
               | _ => none
             tips := trailing ++ fromSub
             usage := some (c.usageFor used) }

/-- The error of a value that is neither an option nor a positional argument the command has
room for. -/
def unexpectedValue (c : CommandSpec) (r : Reading) (arg : String) : Interruption :=
  if r.escaped && c.subcommands.contains arg then
    c.refuse { message := "unexpected argument " ++ quoted arg ++ " found"
               tips := ["subcommand " ++ quoted arg ++ " exists; to use it, remove the " ++
                 quoted "--" ++ " before it"]
               usage := some c.usage }
  else if !c.subcommands.isEmpty then
    c.refuse { message := "unrecognized subcommand " ++ quoted arg
               similarCommands := likelyMeant arg c.subcommands
               usage := some c.usage }
  else
    c.refuse { message := "unexpected argument " ++ quoted arg ++ " found", usage := some c.usage }

/-- Reads the characters of a cluster of short options, `rest` the arguments after it. -/
def readShorts (c : CommandSpec) (r : Reading) : List Char → Except Interruption Reading
  | [] => .ok { r with expecting := none }
  | ch :: more =>
    match c.findShort ch with
    | some o =>
      match o.kind with
      | .value _ _ =>
        let attached := match more with
          | '=' :: v => some (String.ofList v)
          | [] => none
          | v => some (String.ofList v)
        match attached with
        | some v => c.take r (.option o) [v]
        | none => do
          let r ← c.settled r
          .ok { r with pending := some (.option o, []), expecting := some o }
      | _ => do
        let r ← c.take r (.option o) []
        c.readShorts r more
    | none =>
      let tip :=
        if !r.escaped && !c.arguments.isEmpty then
          ["to pass " ++ quoted ("-" ++ String.singleton ch) ++ " as a value, use " ++
            quoted ("-- -" ++ String.singleton ch)]
        else []
      .error (c.refuse { message := "unexpected argument " ++ quoted ("-" ++ String.singleton ch) ++
                           " found"
                         tips := tip
                         usage := some c.usage })

/-- Reads a long option `--name` or `--name=value`; `later` are the arguments after it. -/
def readLong (c : CommandSpec) (r : Reading) (body : String) (later : List String) :
    Except Interruption Reading :=
  let (name, value?) := match body.splitOn "=" with
    | [n] => (n, none)
    | n :: vs => (n, some ("=".intercalate vs))
    | [] => (body, none)
  match c.findLong name with
  | some o =>
    match o.kind, value? with
    | .value _ _, some v => c.take r (.option o) [v]
    | .value _ _, none => do
      let r ← c.settled r
      .ok { r with pending := some (.option o, []), expecting := some o }
    | _, some v =>
      let used := ((r.given.filter fun g =>
          g.explicit && !(c.arguments.any fun a => a.id == g.id && a.required)).map (·.id)) ++ [o.id]
      .error (c.refuse { message := "unexpected value " ++ quoted v ++ " for " ++ quoted o.display ++
                           " found; no more were expected"
                         usage := some (c.usageFor used) })
    | _, none => c.take r (.option o) []
  | none => .error (c.unknownLong (c.settle r).1 name later)

/-- Takes a value as the next positional argument. -/
def readPositional (c : CommandSpec) (r : Reading) (arg : String) : Except Interruption Reading :=
  match c.arguments[r.position]? with
  | some a => do
    let sameSlot := match r.pending with
      | some (.argument p, _) => p.id == a.id && a.many
      | _ => false
    let r ← if sameSlot then .ok r else c.settled r
    let vals := match r.pending with
      | some (_, vs) => if sameSlot then vs else []
      | none => []
    .ok { r with pending := some (.argument a, vals ++ [arg]), expecting := none
                 position := if a.many then r.position else r.position + 1 }
  | none => .error (c.unexpectedValue (c.settle r).1 arg)

/-- The checks at the end of a command's arguments: what waits is settled, defaults are
filled in, and required arguments must be there. -/
def finish (c : CommandSpec) (r : Reading) (hasSubcommand : Bool) : Except Interruption Reading := do
  let r ← c.settled r
  let r := c.options.foldl (fun r o =>
    match o.default with
    | some d => if r.has o.id then r else { r with given := r.given ++ [⟨o.id, [d], false⟩] }
    | none => r) r
  if !hasSubcommand && c.helpWhenBare && r.used.isEmpty then
    throw (.refuses c.helpText)
  if !hasSubcommand && !c.subcommands.isEmpty then
    throw (c.refuse { message := quoted c.usageName ++ " requires a subcommand but one was not provided" ++
                        "\n  [subcommands: " ++ ", ".intercalate c.subcommands ++ "]"
                      usage := some c.usage })
  let missing := c.arguments.filter fun a => a.required && !r.has a.id
  if !missing.isEmpty then
    throw (c.refuse { message := "the following required arguments were not provided:" ++
                        String.join (missing.map fun a => "\n  <" ++ a.placeholder ++ ">")
                      usage := some (c.usageWith (r.used ++ missing.map (·.id))) })
  .ok r

end CommandSpec

/-- The help asked for by `help` and the names after it: each name a subcommand of the one
before. -/
def helpFor (c : CommandSpec) : List String → Interruption
  | [] => .shows c.helpText
  | name :: rest =>
    match subcommand? c name with
    | some s => helpFor s rest
    | none => c.refuse { message := "unrecognized subcommand " ++ quoted name, usage := some c.usage }

/-- Reads the arguments of a command; gives what was read and, if a subcommand was named, its
name and the arguments after it. -/
def readArguments (c : CommandSpec) (r : Reading) :
    List String → Except Interruption (Reading × Option (String × List String))
  | [] => .ok (r, none)
  | arg :: rest =>
    if r.escaped then do
      let r ← c.readPositional r arg
      readArguments c r rest
    else if c.subcommands.contains arg then
      if arg == "help" then .error (helpFor c rest) else .ok (r, some (arg, rest))
    else if arg == "--" then readArguments c { r with escaped := true } rest
    else if arg.startsWith "--" then do
      let r ← c.readLong r (arg.drop 2).toString rest
      readArguments c r rest
    else if arg.startsWith "-" && arg.length > 1 then do
      let r ← c.readShorts r (arg.drop 1).toString.toList
      readArguments c r rest
    else
      match r.expecting, r.pending with
      | some _, some (s, vals) =>
        readArguments c { r with pending := some (s, vals ++ [arg]), expecting := none } rest
      | some o, none =>
        readArguments c { r with pending := some (.option o, [arg]), expecting := none } rest
      | none, _ => do
        let r ← c.readPositional r arg
        readArguments c r rest

/-- What the program is asked to do. -/
inductive Request where
  /-- Resolve the remote repositories of a build; print them as JSON if asked. -/
  | repos (build settings globalSettings : Option String) (json : Bool)
  /-- Show which mirror serves a repository. -/
  | mirror (id url : String) (settings globalSettings : Option String)
  /-- Print the id generated for a url. -/
  | id (url : String)
deriving DecidableEq, Repr, Inhabited

/-- A request with the flags that choose how much is logged. -/
structure Invocation where
  request : Request
  verbose : Bool := false
  debug : Bool := false
deriving DecidableEq, Repr, Inhabited

/-- The single value of an argument. -/
def Reading.value? (r : Reading) (id : String) : Option String :=
  (r.values? id).bind (·.head?)

/-- The request of a subcommand from what was read for it. -/
def requestOf (name : String) (r : Reading) : Request :=
  if name == "repos" then
    .repos (r.value? "build") (r.value? "settings") (r.value? "global_settings") (r.has "json")
  else if name == "mirror" then
    .mirror ((r.value? "id").getD "") ((r.value? "url").getD "") (r.value? "settings")
      (r.value? "global_settings")
  else .id ((r.value? "url").getD "")

/-- Reads the command line of the program. -/
def readCommandLine (args : List String) : Except Interruption Invocation := do
  let (top, sub?) ← readArguments programCommand {} args
  match sub? with
  | none =>
    let _ ← programCommand.finish top false
    throw (.refuses programCommand.helpText)
  | some (name, rest) =>
    match subcommand? programCommand name with
    | none => throw (.refuses programCommand.helpText)
    | some s =>
      let (r, _) ← readArguments s {} rest
      let r ← s.finish r false
      let _ ← programCommand.finish top true
      .ok { request := requestOf name r
            verbose := top.has "verbose" || r.has "verbose"
            debug := top.has "debug" || r.has "debug" }

end RepoRouting.Cli
