import RepoRouting.Collect
/-!
# Repository sessions

Everything a resolution engine needs to know about repositories for one build step: the
local repository, the collected remote repositories, and whether it works offline. An
explicitly given local repository wins over the settings' one, which wins over
`.m2/repository` in the home directory.
-/

namespace RepoRouting

/-- The repositories of one build step. -/
structure Session where
  localRepo : LocalRepo
  remotes : List Resolved
  offline : Bool
deriving DecidableEq, Repr, Inhabited

namespace Session

/-- Settles the local repository and collects the remote ones. -/
def prepare (k : Collector) (home : String) (configured declared : List RemoteConfig)
    (localRepo? : Option LocalRepo) : Except ConfigError Session := do
  let remotes ← k.collect configured declared
  .ok { localRepo := localRepo?.getD (k.settings.localRepo home), remotes
        offline := k.settings.offline }

/-- The log lines of preparing a session: the offline notice, then the collection's. -/
def trace (k : Collector) (configured declared : List RemoteConfig) : List LogLine :=
  (if k.settings.offline then [⟨.session, .info, "You are working in offline mode."⟩] else []) ++
    k.trace configured declared

/-- The remote repository with an id. -/
def remote? (s : Session) (id : String) : Option Resolved :=
  s.remotes.find? (·.id == id)

end Session

end RepoRouting
