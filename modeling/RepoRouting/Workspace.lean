import RepoRouting.Load
import RepoRouting.Session

/-!
# Inspecting a build

A `Workspace` is what an inspection of a build can see: the file system around the working
directory, the places settings are looked for, and how stored passwords are decrypted.

`Workspace.inspect` answers which repositories a build will use. It loads the build file (one
that is named must exist; `antmvn.yaml` in the working directory is read if it is there), finds
the settings (paths given to the inspection win over the build file's), registers the build's
named definitions, and prepares the session. Along with the answer it gives the log lines the
steps write, also when a step fails.

`Workspace.mirrorOf` answers which mirror of the settings serves a repository.
-/

namespace RepoRouting

/-- The build file read when none is named. -/
def defaultBuildFile : String := "antmvn.yaml"

/-- Why an inspection failed: a named build file that is not there, or a configuration
error. -/
inductive InspectError where
  | missingBuildFile (path : String)
  | config (e : ConfigError)
deriving DecidableEq, Repr, Inhabited

/-- What the inspection of a build finds: the session, and the settings paths it was asked to
use (given or from the build file), before the usual places are tried. -/
structure Inspection where
  session : Session
  settingsPath : Option String
  globalSettingsPath : Option String
deriving DecidableEq, Repr, Inhabited

/-- The file system, the places settings are found in, and the decryptor of an inspection. -/
structure Workspace (m : Type → Type) where
  files : FileSystem m
  places : Places
  decryptor : Decryptor := .plaintext

namespace Workspace

variable [Monad m]

/-- The build file: the named one, which must exist, or `antmvn.yaml` if it exists, or an
empty one. -/
def buildFile (w : Workspace m) (build? : Option String) : m (Except InspectError BuildFile) := do
  match build? with
  | some path =>
    if !(← w.files.probe path) then return .error (.missingBuildFile path)
    return (← BuildFile.loadFrom w.files path).mapError .config
  | none =>
    if ← w.files.probe defaultBuildFile then
      return (← BuildFile.loadFrom w.files defaultBuildFile).mapError .config
    return .ok {}

/-- The repositories a build uses, with the log lines written on the way. -/
def inspect (w : Workspace m) (build? settings? globalSettings? : Option String) :
    m (Except InspectError Inspection × List LogLine) := do
  match ← w.buildFile build? with
  | .error e => return (.error e, [])
  | .ok b =>
    let userPath := settings? <|> b.settingsPath?
    let globalPath := globalSettings? <|> b.globalSettingsPath?
    let (settings, loadLog) ← Settings.discover w.files w.places userPath globalPath
    match b.registry with
    | .error e => return (.error (.config e), loadLog)
    | .ok registry =>
      let k : Collector := { settings, registry := some registry, decryptor := w.decryptor }
      let log := loadLog ++ Session.trace k b.repositories b.declared
      match Session.prepare k w.places.home b.repositories b.declared b.localRepo? with
      | .error e => return (.error (.config e), log)
      | .ok session => return (.ok ⟨session, userPath, globalPath⟩, log)

/-- The mirror of the discovered settings that serves a repository, with the log lines of
loading the settings. -/
def mirrorOf (w : Workspace m) (id url : String) (settings? globalSettings? : Option String) :
    m (Option Mirror × List LogLine) := do
  let (settings, log) ← Settings.discover w.files w.places settings? globalSettings?
  return ((findMirror id url settings.mirrors).map (·.1), log)

end Workspace

end RepoRouting
