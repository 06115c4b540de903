import RepoRouting.Workspace
import RepoRouting.Text.Wrap

/-!
# Error reports

When a command fails, the program prints a report and exits with a code that says what kind
of failure it was: `2` for a configuration that cannot be used, `5` for a file that cannot be
read (a named build file that is not there counts as one).

A report names the kind of failure (`antmvn::cli::config` or `antmvn::cli::io`), then after an
empty line the message, filled into lines of 80 columns under a `×` mark with `│` before each
further line, and for some configuration errors a hint on what to do, filled under `help:`.
-/

namespace RepoRouting.Cli

open RepoRouting.Text

/-- Why a command failed: a configuration error with an optional hint, or a file error. -/
inductive Failure where
  | config (message : String) (help : Option String)
  | io (message : String)
deriving DecidableEq, Repr, Inhabited

/-- The hint a configuration error comes with: how to give a repository a url, or where to
define a referenced one. -/
def ConfigError.hint : ConfigError → Option String
  | .emptyUrl _ _ =>
    some "set `url` on the repository, or use `refid` to point at a named definition"
  | .unresolvedReference _ => some "define the repository under `references` before it is used"
  | _ => none

namespace Failure

/-- The failure of an inspection: a build file that is not there or cannot be read is a file
error, anything else a configuration error. -/
def ofInspect : InspectError → Failure
  | .missingBuildFile path => .io ("Build file not found: " ++ path)
  | .config (.io fault) => .io fault.message
  | .config e => .config e.message (ConfigError.hint e)

/-- The exit code of a failure. -/
def code : Failure → Nat
  | .config _ _ => 2
  | .io _ => 5

/-- The name of the kind of failure. -/
def kind : Failure → String
  | .config _ _ => "antmvn::cli::config"
  | .io _ => "antmvn::cli::io"

/-- What went wrong, in one sentence. -/
def message : Failure → String
  | .config m _ => "Configuration error: " ++ m
  | .io m => "IO error: " ++ m

/-- The hint on what to do. -/
def help : Failure → Option String
  | .config _ h => h
  | .io _ => none

/-- The report of a failure, each of its lines ended. -/
def report (f : Failure) : String :=
  f.kind ++ "\n\n" ++ Filling.fill ⟨78, "  × ", "  │ "⟩ f.message ++ "\n" ++
    (match f.help with
      | some h => Filling.fill ⟨78, "  help: ", "        "⟩ h ++ "\n"
      | none => "")

end Failure

end RepoRouting.Cli
