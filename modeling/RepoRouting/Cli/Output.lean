import RepoRouting.Codec.Session
import RepoRouting.Doc.Json
import RepoRouting.Digest.Md5
import RepoRouting.Settings

/-!
# What the commands print

`repos` prints the local repository, a notice when working offline, and a table of the remote
repositories: id, whether releases and snapshots are enabled, the user of the credentials and
the proxy host (`-` when there is none), and the url, with a line under each mirrored
repository naming the one it stands for. Columns are padded to their width in characters; a
longer value is kept whole and pushes the rest of its row to the right. With `--json` it
prints the session as laid-out JSON instead.

`mirror` prints the mirror found for a repository with its url and pattern, or that there is
none; `id` prints the id generated for a url.
-/

namespace RepoRouting.Cli

/-- A text padded with spaces to a number of characters. -/
def padTo (n : Nat) (s : String) : String :=
  s ++ String.ofList (List.replicate (n - s.length) ' ')

/-- A row of the repository table. -/
def tableRow (id releases snapshots auth proxy url : String) : String :=
  padTo 24 id ++ " " ++ padTo 9 releases ++ " " ++ padTo 9 snapshots ++ " " ++ padTo 14 auth ++
    " " ++ padTo 18 proxy ++ " " ++ url ++ "\n"

/-- The lines of one repository in the table. -/
def repositoryLines (r : Resolved) : String :=
  tableRow r.id r.releases.status r.snapshots.status (r.principal?.getD "-")
      (r.proxyHost?.getD "-") r.url ++
    (match r.mirroredFrom with
      | some o => "  ↳ mirror of " ++ o.id ++ " (" ++ o.url ++ ")\n"
      | none => "")

/-- The table of a session. -/
def sessionTable (s : Session) : String :=
  "Local repository: " ++ s.localRepo.path ++ " (" ++ s.localRepo.layout ++ ")\n" ++
    (if s.offline then "Offline mode: remote repositories will not be contacted\n" else "") ++
    "\n" ++ tableRow "ID" "RELEASES" "SNAPSHOTS" "AUTH" "PROXY" "URL" ++
    String.ofList (List.replicate 100 '-') ++ "\n" ++
    String.join (s.remotes.map repositoryLines)

/-- A session as laid-out JSON. -/
def sessionJson (s : Session) : String := (Codec.sessionNode s).pretty ++ "\n"

/-- What `mirror` prints when a mirror serves a repository. -/
def mirrorFound (id : String) (m : Mirror) : String :=
  "→ " ++ id ++ " is mirrored by " ++ m.id ++ "\n  url:      " ++ m.url ++ "\n  mirrorOf: " ++
    m.mirrorOf ++ "\n"

/-- What `mirror` prints when no mirror serves a repository. -/
def mirrorMissing (id : String) : String := "✗ No mirror for " ++ id ++ "\n"

/-- What `id` prints. -/
def idLine (url : String) : String := Digest.md5Hex url ++ "\n"

end RepoRouting.Cli
