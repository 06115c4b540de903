import RepoRouting.Cli.Parse
import RepoRouting.Cli.Report
import RepoRouting.Cli.Output
import RepoRouting.Log.Filter

/-!
# Running the program

`run` is the whole program over a workspace: it reads the command line, performs the command
it asks for, and gives the exit code with what is printed to standard output and standard
error.

A help or version text is printed to standard output with code `0`; a usage error to standard
error with code `2`. A command prints its output to standard output; its log lines go to
standard error, those the log filter shows, and after them the report of a failure. The filter
is the one given (`RUST_LOG`) when it reads; otherwise it shows up to `debug` with `--debug`,
up to `info` with `--verbose`, and only warnings and errors without them.

A command ends with code `0` when it did its work, `3` when `mirror` finds no mirror, and the
code of the failure when it failed.
-/

namespace RepoRouting.Cli

/-- How a run of the program ends: its exit code and what it printed to standard output and to
standard error. -/
structure Outcome where
  code : Nat
  out : String
  err : String
deriving DecidableEq, Repr, Inhabited

/-- How a command ends: its work done, nothing found, or failed. -/
inductive Ending where
  | done
  | unmatched
  | failed (f : Failure)
deriving DecidableEq, Repr, Inhabited

/-- What a command did: what it printed, how it ended, and the log lines it wrote. -/
structure Performance where
  out : String
  ending : Ending
  log : List LogLine
deriving Repr, Inhabited

/-- The most detailed level logged when no filter is given. -/
def Invocation.logLevel (i : Invocation) : Level :=
  if i.debug then .debug else if i.verbose then .info else .warn

/-- The filter of a run: the one given, if it reads, else the one of the flags. -/
def Invocation.logFilter (i : Invocation) (given? : Option String) : LogFilter :=
  (given?.bind LogFilter.parse?).getD (LogFilter.upTo i.logLevel)

/-- The outcome of a command, with the log lines a filter shows. -/
def Performance.outcome (p : Performance) (shown : LogLine → Bool) : Outcome :=
  let log := String.join ((p.log.filter shown).map (·.render ++ "\n"))
  match p.ending with
  | .done => ⟨0, p.out, log⟩
  | .unmatched => ⟨3, p.out, log⟩
  | .failed f => ⟨f.code, p.out, log ++ f.report ++ "\n"⟩

variable [Monad m]

/-- Performs a request in a workspace. -/
def perform (w : Workspace m) : Request → m Performance
  | .repos build settings globalSettings json => do
    let (result, log) ← w.inspect build settings globalSettings
    match result with
    | .ok found =>
      let shown := if json then sessionJson found.session else sessionTable found.session
      return ⟨shown, .done, log⟩
    | .error e => return ⟨"", .failed (Failure.ofInspect e), log⟩
  | .mirror id url settings globalSettings => do
    let (found, log) ← w.mirrorOf id url settings globalSettings
    match found with
    | some mirror => return ⟨mirrorFound id mirror, .done, log⟩
    | none => return ⟨mirrorMissing id, .unmatched, log⟩
  | .id url => return ⟨idLine url, .done, []⟩

/-- Runs the program in a workspace with a log filter, if one is given, and the arguments of
its command line. -/
def run (w : Workspace m) (logFilter? : Option String) (args : List String) : m Outcome := do
  match readCommandLine args with
  | .error (.shows text) => return ⟨0, text, ""⟩
  | .error (.refuses text) => return ⟨2, "", text⟩
  | .ok i =>
    let p ← perform w i.request
    return p.outcome (i.logFilter logFilter?).shows

end RepoRouting.Cli
