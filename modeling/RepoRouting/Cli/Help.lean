import RepoRouting.Cli.Spec
import RepoRouting.Text.Width

/-!
# Usage lines, help and version texts

The usage line of a command is its name, `[OPTIONS]` if it has options beyond help and
version, its required positional arguments as `<NAME>`, an optional one as `[NAME]...`, and
`<COMMAND>` if it has subcommands. After a mistake the usage line names what was given
instead: the options that were used and the required arguments, options first, then
positional arguments in their order.

The help of a command is what it does, its usage line, then its subcommands, positional
arguments and options, each with its help, in sections. In a section the helps start in one
column, two columns after the longest entry (an option counts with the four columns of its
short name); when the entries take more than two fifths of a line of 100 columns and some help
does not fit in the rest, every help goes on the next line instead, ten columns in. An option
with a value it has when not given shows it after its help as `[default: ...]`.

The version of a command is its display name and its version.
-/

namespace RepoRouting.Cli

open RepoRouting.Text

/-- The width of a terminal line that help is laid out for. -/
def helpWidth : Nat := 100

/-- How an option is written: its long name and, if it takes one, its value. -/
def OptionSpec.display (o : OptionSpec) : String :=
  "--" ++ o.long ++
    (match o.kind with
      | .value p _ => " <" ++ p ++ ">"
      | _ => "")

/-- How a positional argument is written: `<NAME>` if it is required, `[NAME]` otherwise,
with `...` after one that takes every remaining value. -/
def ArgumentSpec.display (a : ArgumentSpec) : String :=
  (if a.required && !a.many then "<" ++ a.placeholder ++ ">" else "[" ++ a.placeholder ++ "]") ++
    (if a.many then "..." else "")

/-- What an option's help says after its text: the value it has when not given. -/
def OptionSpec.defaultNote (o : OptionSpec) : String :=
  match o.default with
  | some d =>
    let shown := if d.isEmpty || d.any Char.isWhitespace then "\"" ++ d ++ "\"" else d
    "[default: " ++ shown ++ "]"
  | none => ""

/-- An option's help with its default. -/
def OptionSpec.fullHelp (o : OptionSpec) : String :=
  if o.defaultNote.isEmpty then o.help
  else if o.help.isEmpty then o.defaultNote
  else o.help ++ " " ++ o.defaultNote

namespace CommandSpec

/-- Whether the usage line shows `[OPTIONS]`: the command has an option besides help and
version. -/
def showsOptions (c : CommandSpec) : Bool :=
  c.options.any fun o => o.kind != .help && o.kind != .version

/-- The usage line of a command. -/
def usage (c : CommandSpec) : String :=
  c.usageName ++ (if c.showsOptions then " [OPTIONS]" else "") ++
    String.join (c.arguments.map (" " ++ ·.display)) ++
    (if c.subcommands.isEmpty then "" else " <COMMAND>")

/-- The usage line after a mistake: the required arguments and the ones used, options first
in the order met, then positional arguments in their order. -/
def usageWith (c : CommandSpec) (used : List String) : String :=
  let wanted := (c.arguments.filter (·.required)).map (·.id) ++ used
  let opts := (c.options.filter (wanted.contains ·.id)).map fun o => (wanted.idxOf o.id, o.display)
  let optTexts := ((opts.mergeSort fun x y => x.1 ≤ y.1).map (·.2)).eraseDups
  let args := (c.arguments.filter (wanted.contains ·.id)).map fun a =>
    if a.many then a.display else "<" ++ a.placeholder ++ ">"
  c.usageName ++ String.join ((optTexts ++ args).map (" " ++ ·)) ++
    (if c.subcommands.isEmpty then "" else " <COMMAND>")

/-- The usage line for a list of arguments used so far: the plain one when none was. -/
def usageFor (c : CommandSpec) (used : List String) : String :=
  if used.isEmpty then c.usage else c.usageWith used

end CommandSpec

/-- Spaces. -/
def spaces (n : Nat) : String := String.ofList (List.replicate n ' ')

/-- An entry of a help section: what it shows, the columns it counts for, its help, and the
columns its help is measured by (an option's help and its default, without the space between). -/
structure HelpEntry where
  head : String
  span : Nat
  help : String
  measure : Nat := columns help
deriving Repr, Inhabited

/-- Whether the helps of a section go on lines of their own: the entries, `longest` columns,
take more than two fifths of the line and some help does not fit after them. -/
def helpOnNextLine (entries : List HelpEntry) (longest : Nat) : Bool :=
  let taken := longest + 4
  taken ≤ helpWidth && 5 * taken > 2 * helpWidth &&
    entries.any fun e => e.measure > helpWidth - taken

/-- The lines of a help section. -/
def sectionLines (entries : List HelpEntry) : List String :=
  let longest := entries.foldl (fun m e => max m e.span) 2
  let below := helpOnNextLine entries longest
  entries.map fun e =>
    if below then "  " ++ e.head ++ "\n" ++ spaces 10 ++ e.help
    else "  " ++ e.head ++ spaces (longest + 2 - e.span) ++ e.help

/-- How an option heads its entry: its short name or four spaces, then how it is written. -/
def OptionSpec.head (o : OptionSpec) : String :=
  (match o.short with
    | some s => "-" ++ String.singleton s ++ ", "
    | none => "    ") ++ o.display

namespace CommandSpec

/-- The sections of a command's help. -/
def helpSections (c : CommandSpec) : List String :=
  let commands := (programSubcommands.filter (c.subcommands.contains ·.name)).map fun s =>
    ({ head := s.name, span := columns s.name, help := s.about } : HelpEntry)
  let arguments := c.arguments.map fun a =>
    ({ head := a.display, span := columns a.display, help := a.help } : HelpEntry)
  let options := c.options.map fun o =>
    ({ head := o.head, span := columns o.display + 4, help := o.fullHelp
       measure := columns o.help + columns o.defaultNote } : HelpEntry)
  let part (title : String) (entries : List HelpEntry) : List String :=
    if entries.isEmpty then [] else [title ++ ":\n" ++ "\n".intercalate (sectionLines entries)]
  part "Commands" commands ++ part "Arguments" arguments ++ part "Options" options

/-- The help of a command. -/
def helpText (c : CommandSpec) : String :=
  c.about ++ "\n\nUsage: " ++ c.usage ++ "\n\n" ++ "\n\n".intercalate c.helpSections ++ "\n"

/-- The version line of a command. -/
def versionText (c : CommandSpec) : String :=
  c.displayName ++ " " ++ c.version.getD "" ++ "\n"

end CommandSpec

end RepoRouting.Cli
