import RepoRouting.Registry
import RepoRouting.Text.Blank
/-!
# Build files

A build file describes the repository setup of a build step: settings files, a local
repository, named definitions (`references`), the repositories configured on the task, and
the repositories the project declares.

Relative paths in a build file are read against the directory of the file
(`BuildFile.resolvePath`), joined as file system paths are: an absolute path stays as it
is, and nothing is normalized (`sub/../g.yaml` stays so). The directory of the file is
what remains of its path without the last component (`parentDir?`).
-/

namespace RepoRouting

/-- A definition that other entries can refer to by name. -/
structure NamedRepo where
  name : String
  repo : RemoteConfig
deriving DecidableEq, Repr, Inhabited

/-- A build file. -/
structure BuildFile where
  settings : Option String := none
  globalSettings : Option String := none
  localRepository : Option String := none
  references : List NamedRepo := []
  repositories : List RemoteConfig := []
  /-- The repositories of the project definition. -/
  project : List ProjectRepo := []
  /-- The directory relative paths are read against, once the file is loaded. -/
  baseDir : Option String := none
deriving DecidableEq, Repr, Inhabited

/-- Whether a piece of a path names nothing: it is empty or `.`. -/
def blankPiece (piece : List Char) : Bool := piece.isEmpty || piece == ['.']

/-- What is left of a path, written backwards, once its last piece and the `/` before it
are dropped. -/
def dropPieceBack (rev : List Char) : List Char := (rev.dropWhile (· != '/')).drop 1

theorem length_dropPieceBack_lt {rev : List Char} (h : rev ≠ []) :
    (dropPieceBack rev).length < rev.length := by
  unfold dropPieceBack
  induction rev with
  | nil => exact absurd rfl h
  | cons c cs ih =>
    by_cases hc : (c != '/') = true
    · simp only [List.dropWhile_cons, hc, if_true]
      cases cs with
      | nil => simp
      | cons d ds => have := ih (List.cons_ne_nil d ds); simp only [List.length_cons] at *; omega
    · simp [hc]

/-- Drops the pieces that name nothing from the end of a path written backwards. -/
def trimBlankBack : List Char → List Char
  | [] => []
  | c :: cs =>
    if blankPiece ((c :: cs).takeWhile (· != '/')) then trimBlankBack (dropPieceBack (c :: cs))
    else c :: cs
termination_by rev => rev.length
decreasing_by exact length_dropPieceBack_lt (List.cons_ne_nil c cs)

/-- Drops the last piece that names something from a path written backwards, with the
blank pieces after and before it; none if no piece names something. -/
def dropNamedBack : List Char → Option (List Char)
  | [] => none
  | c :: cs =>
    if blankPiece ((c :: cs).takeWhile (· != '/')) then dropNamedBack (dropPieceBack (c :: cs))
    else some (trimBlankBack (dropPieceBack (c :: cs)))
termination_by rev => rev.length
decreasing_by exact length_dropPieceBack_lt (List.cons_ne_nil c cs)

/-- The directory of a file path, as file systems read it: the path without its last
component. Pieces between slashes that are empty or `.` are no components and go with the
last one (`sub/./b.yaml` and `sub//b.yaml` are in `sub`); a leading `./` is a component of
its own, kept in front of the others (`./b.yaml` is in `.`, `./` in the empty path); the
root and the empty path have no directory. -/
def parentDir? (path : String) : Option String :=
  let cs := path.toList
  let rooted := cs.head? == some '/'
  let here := !rooted && (cs == ['.'] || cs.take 2 == ['.', '/'])
  let front := cs.take ((if rooted then 1 else 0) + (if here then 1 else 0))
  let body := cs.drop front.length
  match dropNamedBack body.reverse with
  | some rest => some (String.ofList (front ++ rest.reverse))
  | none => if here then some "" else none

/-- Joins a path onto a directory: an absolute path replaces it. -/
def joinPath (dir path : String) : String :=
  if path.startsWith "/" || dir.isEmpty then path
  else if dir.endsWith "/" then dir ++ path
  else dir ++ "/" ++ path

/-- Registers one named definition of a build file; a blank name fails first. -/
def Registry.registerNamed (reg : Registry) (named : NamedRepo) : Except ConfigError Registry :=
  if Text.isBlankText named.name then .error (.missingAttribute "repository reference" "name")
  else reg.register named.name named.repo

namespace BuildFile

/-- The named definitions registered in file order. -/
def registry (b : BuildFile) : Except ConfigError Registry :=
  b.references.foldlM Registry.registerNamed {}

/-- The project's repositories in the collector's form. -/
def declared (b : BuildFile) : List RemoteConfig :=
  b.project.map ProjectRepo.toRemote

/-- A path of the file read against its directory. -/
def resolvePath (b : BuildFile) (path : String) : String :=
  match b.baseDir with
  | some base => joinPath base path
  | none => path

/-- The user settings file. -/
def settingsPath? (b : BuildFile) : Option String := b.settings.map b.resolvePath

/-- The global settings file. -/
def globalSettingsPath? (b : BuildFile) : Option String := b.globalSettings.map b.resolvePath

/-- The local repository the file sets. -/
def localRepo? (b : BuildFile) : Option LocalRepo :=
  b.localRepository.map fun p => { path := b.resolvePath p }

end BuildFile

end RepoRouting
