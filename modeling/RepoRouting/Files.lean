import RepoRouting.Error

/-!
# File trees

The program reads build files and settings files. A `FileTree` is the part of a file system it
can see: text files under a working directory, and the directories that hold them. The working
directory and its ancestors are directories too.

A path is read as the system reads it: from the root if it starts with `/`, else from the working
directory; `.` stays, `..` goes up (at the root it stays at the root), and every component but
the last must be a directory. The working directory's own path, as the tree writes it (`cwd`),
may stand for the root of the tree's paths, so a path that starts with it is read as an
absolute one. A file met before the last component, or before a final `/`, is
`notADirectory`; a name that is not there is `notFound`. Paths are shown as they were given, so
nothing here rewrites them.

A `FileSystem` is what loading asks of files, in any monad: whether a path names something,
and the text of the file it names. A tree answers at once (`FileTree.system`, in `Id`); a
program that runs answers from the disk.
-/

namespace RepoRouting

/-- What a path names. -/
inductive Entry where
  | file (content : String)
  | directory
deriving DecidableEq, Repr, Inhabited

/-- Text files by their paths (as components from the root), and the working directory. -/
structure FileTree where
  /-- The working directory, as paths write it. -/
  cwd : String
  files : List (List String × String)
deriving Repr, Inhabited

/-- The components of a path, without empty ones. -/
def pathComponents (path : String) : List String :=
  (path.splitOn "/").filter (· != "")

namespace FileTree

/-- The working directory as components from the root. -/
def cwdParts (t : FileTree) : List String := pathComponents t.cwd

/-- What the components from the root name, if anything. -/
def entry? (t : FileTree) (at_ : List String) : Option Entry :=
  match t.files.lookup at_ with
  | some content => some (.file content)
  | none =>
    if at_.isPrefixOf t.cwdParts || t.files.any (fun (p, _) => at_.isPrefixOf p && at_ != p) then
      some .directory
    else none

/-- Walks the components of a path from a directory. -/
def walk (t : FileTree) (dirAtEnd : Bool) : List String → List String → Except FileFault Entry
  | _, [] => .ok .directory
  | cur, part :: rest =>
    let next :=
      if part == "." then cur else if part == ".." then cur.dropLast else cur ++ [part]
    match t.entry? next with
    | none => .error .notFound
    | some (.file content) =>
      if rest.isEmpty && !dirAtEnd then .ok (.file content) else .error .notADirectory
    | some .directory => t.walk dirAtEnd next rest

/-- What a path names, or why it cannot be reached. -/
def resolve (t : FileTree) (path : String) : Except FileFault Entry :=
  let rooted := path.startsWith "/" || path == t.cwd || path.startsWith (t.cwd ++ "/")
  let start := if rooted then [] else t.cwdParts
  t.walk (path.endsWith "/") start (pathComponents path)

/-- Whether a path names a file or a directory. -/
def exists? (t : FileTree) (path : String) : Bool :=
  match t.resolve path with
  | .ok _ => true
  | .error _ => false

/-- The text of the file at a path. -/
def readText (t : FileTree) (path : String) : Except FileFault String :=
  match t.resolve path with
  | .ok (.file content) => .ok content
  | .ok .directory => .error .isDirectory
  | .error e => .error e

end FileTree

/-- What loading asks of a file system: whether a path names a file or a directory, and the
text of the file at a path or why it cannot be read. -/
structure FileSystem (m : Type → Type) where
  probe : String → m Bool
  read : String → m (Except FileFault String)

/-- A file tree as a file system that answers at once. -/
def FileTree.system (t : FileTree) : FileSystem Id where
  probe := t.exists?
  read := t.readText

end RepoRouting
