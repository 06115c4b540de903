/-!
# The command line of `antmvn`

What the command line accepts, described as data: each command's options (flags, options that
take a value, and the help and version flags), its positional arguments and its
subcommands, with the words its help shows.

`antmvn` has the flags `-v`/`--verbose` and `--debug` everywhere, `-h`/`--help` and
`-V`/`--version` on every command, and three commands:

* `repos` resolves the remote repositories of a build (`-f`/`--build`, `-s`/`--settings`,
  `--global-settings`, `--json`);
* `mirror <ID>` shows which mirror serves a repository (`--url`, empty unless given,
  `-s`/`--settings`, `--global-settings`);
* `id <URL>` prints the id generated for a repository url.

A fourth, `help`, prints the help of the commands named after it.
-/

namespace RepoRouting.Cli

/-- What an option does. -/
inductive OptionKind where
  /-- Sets itself; given twice it is refused. -/
  | flag
  /-- Takes one value, shown as `<placeholder>`; the value of a path may not be empty. -/
  | value (placeholder : String) (path : Bool)
  /-- Prints the help of its command. -/
  | help
  /-- Prints the version of its command. -/
  | version
deriving DecidableEq, Repr, Inhabited

/-- An option: its short and long names, what it does, its help, and the value it has when
it is not given. -/
structure OptionSpec where
  id : String
  short : Option Char := none
  long : String
  kind : OptionKind
  help : String
  default : Option String := none
deriving DecidableEq, Repr, Inhabited

/-- A positional argument: its placeholder, its help, whether it is required, and whether it
takes every remaining value. -/
structure ArgumentSpec where
  id : String
  placeholder : String
  help : String
  required : Bool := true
  many : Bool := false
deriving DecidableEq, Repr, Inhabited

/-- A command: its name, the name usage lines call it by, the name its version line shows, what
it does, its version, options, positional arguments and subcommands. A command with
subcommands needs one; `helpWhenBare` says that given nothing at all it prints its help as an
error. -/
structure CommandSpec where
  name : String
  usageName : String
  displayName : String
  about : String
  version : Option String := none
  options : List OptionSpec := []
  arguments : List ArgumentSpec := []
  subcommands : List String := []
  helpWhenBare : Bool := false
deriving DecidableEq, Repr, Inhabited

namespace CommandSpec

/-- The option with a long name. -/
def findLong (c : CommandSpec) (name : String) : Option OptionSpec :=
  c.options.find? (·.long == name)

/-- The option with a short name. -/
def findShort (c : CommandSpec) (ch : Char) : Option OptionSpec :=
  c.options.find? (·.short == some ch)

/-- Whether the command prints its help on `--help`. -/
def hasHelpFlag (c : CommandSpec) : Bool := c.options.any (·.kind == .help)

end CommandSpec

/-- The version of the program. -/
def programVersion : String := "0.2.0"

/-- The flags every command of the program has. -/
def globalOptions : List OptionSpec :=
  [{ id := "verbose", short := some 'v', long := "verbose", kind := .flag
     help := "Show informational output (repositories in use, offline mode)" },
   { id := "debug", long := "debug", kind := .flag, help := "Enable debug output" }]

/-- The help and version flags. -/
def standardOptions : List OptionSpec :=
  [{ id := "help", short := some 'h', long := "help", kind := .help, help := "Print help" },
   { id := "version", short := some 'V', long := "version", kind := .version
     help := "Print version" }]

/-- The `repos` command. -/
def reposCommand : CommandSpec where
  name := "repos"
  usageName := "antmvn repos"
  displayName := "antmvn-repos"
  about := "Resolve the remote repositories of a build"
  version := some programVersion
  options :=
    [{ id := "build", short := some 'f', long := "build", kind := .value "BUILD" true
       help := "Build file (default: ./antmvn.yaml if present)" },
     { id := "settings", short := some 's', long := "settings", kind := .value "SETTINGS" true
       help := "User settings file (overrides the build file and default locations)" },
     { id := "global_settings", long := "global-settings", kind := .value "GLOBAL_SETTINGS" true
       help := "Global settings file" },
     { id := "json", long := "json", kind := .flag, help := "Output as JSON" }] ++
    globalOptions ++ standardOptions

/-- The `mirror` command. -/
def mirrorCommand : CommandSpec where
  name := "mirror"
  usageName := "antmvn mirror"
  displayName := "antmvn-mirror"
  about := "Show which mirror serves a repository"
  version := some programVersion
  options :=
    [{ id := "url", long := "url", kind := .value "URL" false
       help := "Repository URL (needed for external:* patterns)", default := some "" },
     { id := "settings", short := some 's', long := "settings", kind := .value "SETTINGS" true
       help := "User settings file" },
     { id := "global_settings", long := "global-settings", kind := .value "GLOBAL_SETTINGS" true
       help := "Global settings file" }] ++
    globalOptions ++ standardOptions
  arguments := [{ id := "id", placeholder := "ID", help := "Repository id" }]

/-- The `id` command. -/
def idCommand : CommandSpec where
  name := "id"
  usageName := "antmvn id"
  displayName := "antmvn-id"
  about := "Print the id generated for a repository URL"
  version := some programVersion
  options := globalOptions ++ standardOptions
  arguments := [{ id := "url", placeholder := "URL", help := "Repository URL" }]

/-- The `help` command. -/
def helpCommand : CommandSpec where
  name := "help"
  usageName := "antmvn help"
  displayName := "antmvn-help"
  about := "Print this message or the help of the given subcommand(s)"
  arguments :=
    [{ id := "subcommand", placeholder := "COMMAND", help := "Print help for the subcommand(s)"
       required := false, many := true }]

/-- The commands under the program, in the order its help lists them. -/
def programSubcommands : List CommandSpec := [reposCommand, mirrorCommand, idCommand, helpCommand]

/-- The program itself. -/
def programCommand : CommandSpec where
  name := "antmvn"
  usageName := "antmvn"
  displayName := "antmvn"
  about := "Inspect which remote repositories, mirrors and credentials an Ant build will use"
  version := some programVersion
  options := globalOptions ++ standardOptions
  subcommands := programSubcommands.map (·.name)
  helpWhenBare := true

/-- The command under another one with a name. -/
def subcommand? (c : CommandSpec) (name : String) : Option CommandSpec :=
  if c.subcommands.contains name then programSubcommands.find? (·.name == name) else none

end RepoRouting.Cli
