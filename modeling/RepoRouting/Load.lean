import RepoRouting.Files
import RepoRouting.Log
import RepoRouting.Yaml.Document
import RepoRouting.Codec.Settings
import RepoRouting.Codec.Build

/-!
# Loading settings and build files

Settings files and build files are YAML. A settings file that is missing is `notFound`; one
that cannot be read or is not valid settings fails with the file system's or the YAML reader's
words. A build file that cannot be read or parsed is a configuration error; once loaded it
remembers its directory, against which its relative paths are read.

`Settings.discover` finds the user and the global settings: an explicit path wins, else the
first existing file of the usual places (`~/.ant/settings.yaml`, `~/.m2/settings.yaml` for the
user; `$ANT_HOME/etc/settings.yaml`, `$M2_HOME/conf/settings.yaml` globally). A file that
fails to load counts as empty settings, with a warning. The user settings are merged over the
global ones.
-/

namespace RepoRouting

/-- Settings from YAML text. -/
def Settings.ofYaml (text : String) : Except SettingsError Settings :=
  ((Yaml.load text).read (Codec.readSettings Doc.Reader.yaml .root)).mapError .yaml

/-- Settings from a file. -/
def Settings.loadFrom [Monad m] (fs : FileSystem m) (path : String) :
    m (Except SettingsError Settings) := do
  if !(← fs.probe path) then return .error (.notFound path)
  match ← fs.read path with
  | .error fault => return .error (.io fault)
  | .ok text => return Settings.ofYaml text

/-- Settings from a file, or empty settings with a warning if it fails to load. -/
def Settings.loadLenient [Monad m] (fs : FileSystem m) (path : String) :
    m (Settings × List LogLine) := do
  let loading : LogLine := ⟨.settings, .debug, "Loading settings file: " ++ path⟩
  match ← Settings.loadFrom fs path with
  | .ok s => return (s, [loading])
  | .error e =>
    return ({}, [loading, ⟨.settings, .warn, "Error reading settings file '" ++ path ++
      "' - ignoring. Error was: " ++ e.message⟩])

/-- The directories settings are looked for in: the home directory, and the installation
directories named by the environment, if any. -/
structure Places where
  home : String
  antHome : Option String := none
  m2Home : Option String := none
deriving Repr, Inhabited

/-- The user settings files looked for, in order. -/
def Places.userCandidates (e : Places) : List String :=
  [joinPath e.home ".ant/settings.yaml", joinPath e.home ".m2/settings.yaml"]

/-- The global settings files looked for, in order. -/
def Places.globalCandidates (e : Places) : List String :=
  (e.antHome.map (joinPath · "etc/settings.yaml")).toList ++
    (e.m2Home.map (joinPath · "conf/settings.yaml")).toList

/-- The settings file used: the given one, else the first of the candidates that exists. -/
def settingsPath [Monad m] (fs : FileSystem m) (given : Option String) (candidates : List String) :
    m (Option String) :=
  match given with
  | some path => return some path
  | none => candidates.findM? fs.probe

/-- The settings of a file if there is one, with the log lines of loading it. -/
def Settings.loadIfAny [Monad m] (fs : FileSystem m) : Option String → m (Settings × List LogLine)
  | some path => Settings.loadLenient fs path
  | none => return ({}, [])

/-- The user and global settings, merged, with the log lines of loading them. -/
def Settings.discover [Monad m] (fs : FileSystem m) (e : Places) (user global : Option String) :
    m (Settings × List LogLine) := do
  let userPath ← settingsPath fs user e.userCandidates
  let globalPath ← settingsPath fs global e.globalCandidates
  let (u, userLog) ← Settings.loadIfAny fs userPath
  let (g, globalLog) ← Settings.loadIfAny fs globalPath
  return (u.merge g, userLog ++ globalLog)

/-- A build file from YAML text. -/
def BuildFile.ofYaml (text : String) : Except ConfigError BuildFile :=
  ((Yaml.load text).read (Codec.readBuild Doc.Reader.yaml .root)).mapError .malformed

/-- A build file read from a path; its relative paths are read against its directory. -/
def BuildFile.loadFrom [Monad m] (fs : FileSystem m) (path : String) :
    m (Except ConfigError BuildFile) := do
  match ← fs.read path with
  | .error fault => return .error (.io fault)
  | .ok text => return (BuildFile.ofYaml text).map ({ · with baseDir := parentDir? path })

end RepoRouting
