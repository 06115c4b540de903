import RepoRouting.Cli.Run

/-!
# The `antmvn` command

Runs the program on the machine: files are read from the disk, relative paths from the
working directory; settings are looked for under `HOME`, `ANT_HOME` and `M2_HOME`; `RUST_LOG`
is the log filter.
-/

open RepoRouting RepoRouting.Cli

/-- The error number of an error from the operating system. -/
def errorNumber : IO.Error → Option UInt32
  | .alreadyExists _ n _ | .otherError n _ | .resourceBusy n _ | .resourceVanished n _
  | .unsupportedOperation n _ | .hardwareFault n _ | .unsatisfiedConstraints n _
  | .illegalOperation n _ | .protocolError n _ | .timeExpired n _ | .interrupted _ n _
  | .noFileOrDirectory _ n _ | .invalidArgument _ n _ | .permissionDenied _ n _
  | .resourceExhausted _ n _ | .inappropriateType _ n _ | .noSuchThing _ n _ => some n
  | .unexpectedEof | .userError _ => none

/-- Why a file could not be read, from the error the operating system gave. -/
def faultOf (e : IO.Error) : FileFault :=
  match errorNumber e with
  | some 2 => .notFound
  | some 20 => .notADirectory
  | some 21 => .isDirectory
  | _ => .other (toString e)

/-- The files of the machine. -/
def machineFiles : FileSystem IO where
  probe path := do
    try
      let _ ← IO.FS.Handle.mk path .read
      return true
    catch e =>
      return !(faultOf e == .notFound || faultOf e == .notADirectory)
  read path := do
    try
      let bytes ← IO.FS.readBinFile path
      match String.fromUTF8? bytes with
      | some text => return .ok text
      | none => return .error (.other "stream did not contain valid UTF-8")
    catch e =>
      return .error (faultOf e)

/-- Runs the program with the arguments of its command line. -/
def main (args : List String) : IO UInt32 := do
  let home := (← IO.getEnv "HOME").getD ""
  let places : Places := { home, antHome := ← IO.getEnv "ANT_HOME", m2Home := ← IO.getEnv "M2_HOME" }
  let outcome ← run { files := machineFiles, places } (← IO.getEnv "RUST_LOG") args
  IO.print outcome.out
  IO.eprint outcome.err
  return outcome.code.toUInt32
