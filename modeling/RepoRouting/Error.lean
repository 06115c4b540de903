/-!
# Errors

Two families of errors, each with the one function that words it:

* `SettingsError`: a settings file that is missing, unreadable or not valid YAML, and a
  policy word that is not one;
* `ConfigError`: a repository configuration that cannot be collected: an entry without
  url, a reference to nothing, an unknown layout, a nameless definition, or a build file
  that cannot be read.
-/

namespace RepoRouting

/-- Why the file system refused a read. -/
inductive FileFault where
  | notFound
  | isDirectory
  /-- A path goes through a file as if it were a directory. -/
  | notADirectory
  /-- Any other refusal, in the operating system's words. -/
  | other (text : String)
deriving DecidableEq, Repr, Inhabited

/-- The operating system's words for a refused read. -/
def FileFault.message : FileFault → String
  | .notFound => "No such file or directory (os error 2)"
  | .isDirectory => "Is a directory (os error 21)"
  | .notADirectory => "Not a directory (os error 20)"
  | .other text => text

/-- Why settings or a policy could not be read. -/
inductive SettingsError where
  | notFound (path : String)
  | yaml (text : String)
  | io (fault : FileFault)
  | invalidUpdatePolicy (value : String)
  | invalidChecksumPolicy (value : String)
deriving DecidableEq, Repr, Inhabited

/-- The words of a settings error. -/
def SettingsError.message : SettingsError → String
  | .notFound path => "Settings file not found: " ++ path
  | .yaml text => "Failed to parse YAML: " ++ text
  | .io fault => "IO error: " ++ fault.message
  | .invalidUpdatePolicy value =>
    "Invalid update policy '" ++ value ++
      "': expected always, daily, never or interval:<minutes>"
  | .invalidChecksumPolicy value =>
    "Invalid checksum policy '" ++ value ++ "': expected fail, warn or ignore"

/-- Why a repository configuration cannot be collected. -/
inductive ConfigError where
  /-- The entry at this position (from one) has a blank url. -/
  | emptyUrl (position : Nat) (id : Option String)
  /-- A `refid` names no registered definition. -/
  | unresolvedReference (refid : String)
  | unknownLayout (id layout : String)
  | missingAttribute (element field : String)
  | io (fault : FileFault)
  /-- A build file that is not valid YAML for its structure. -/
  | malformed (text : String)
deriving DecidableEq, Repr, Inhabited

/-- The words of a configuration error. -/
def ConfigError.message : ConfigError → String
  | .emptyUrl position id =>
    "Each remote repository must specify a url (repository #" ++ toString position ++
      (match id with
        | some i => ", id '" ++ i ++ "'"
        | none => "") ++ ")"
  | .unresolvedReference refid =>
    "Repository reference '" ++ refid ++ "' does not name a registered repository"
  | .unknownLayout id layout =>
    "Unknown layout '" ++ layout ++ "' for repository " ++ id ++
      ": expected one of default, legacy"
  | .missingAttribute element field =>
    "Missing required attribute '" ++ field ++ "' on " ++ element
  | .io fault => "IO error: " ++ fault.message
  | .malformed text => "Serialization error: " ++ text

end RepoRouting
