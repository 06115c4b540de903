import RepoRouting.Repository
/-!
# Settings

User and global settings: mirrors, stored server credentials, proxies, the local
repository and the offline switch.

Merging keeps the dominant settings' lists and appends each recessive entry whose key is
not yet in the growing list (`Settings.merge`): an entry of the dominant list always wins,
repeats inside the dominant list stay, and repeats inside the recessive list collapse to
their first. The key is the mirror id, the server id, or the proxy's effective id.
-/

namespace RepoRouting

/-- A mirror that takes the place of the repositories its pattern names. -/
structure Mirror where
  /-- The id mirrored repositories take on. -/
  id : String
  /-- The url they are served from instead. -/
  url : String
  /-- The pattern of repository ids served. -/
  mirrorOf : String
  name : Option String := none
deriving DecidableEq, Repr, Inhabited

/-- Stored credentials for a repository id; the password may be encrypted. -/
structure Server where
  id : String
  username : Option String := none
  password : Option String := none
  privateKey : Option String := none
  passphrase : Option String := none
deriving DecidableEq, Repr, Inhabited

/-- A proxy declared in settings. -/
structure SettingsProxy where
  id : Option String := none
  active : Bool := true
  proxy : Proxy
deriving DecidableEq, Repr, Inhabited

/-- The id of a settings proxy that declares none. -/
def defaultProxyId : String := "default"

/-- The effective id of a settings proxy. -/
def SettingsProxy.key (p : SettingsProxy) : String := p.id.getD defaultProxyId

/-- A snapshot of the settings of one build. -/
structure Settings where
  localRepository : Option String := none
  offline : Bool := false
  mirrors : List Mirror := []
  servers : List Server := []
  proxies : List SettingsProxy := []
deriving DecidableEq, Repr, Inhabited

/-- Appends to `acc`, in order, each entry of `xs` whose key is not yet in the list built
so far. -/
def appendNewBy (key : α → String) (acc xs : List α) : List α :=
  xs.foldl (fun out x => if out.any (fun y => key y == key x) then out else out ++ [x]) acc

namespace Settings

/-- Merges recessive settings into dominant ones: the local repository falls back to the
recessive one, `offline` is the dominant one's, and lists are joined by key. -/
def merge (dominant recessive : Settings) : Settings where
  localRepository := dominant.localRepository.or recessive.localRepository
  offline := dominant.offline
  mirrors := appendNewBy Mirror.id dominant.mirrors recessive.mirrors
  servers := appendNewBy Server.id dominant.servers recessive.servers
  proxies := appendNewBy SettingsProxy.key dominant.proxies recessive.proxies

/-- The stored credentials for a repository id: the first server with that id. -/
def server? (s : Settings) (id : String) : Option Server :=
  s.servers.find? (·.id == id)

/-- The proxy in effect: the first active one. -/
def activeProxy? (s : Settings) : Option Proxy :=
  (s.proxies.find? (·.active)).map (·.proxy)

/-- The local repository: the configured one, else `.m2/repository` under `home`. -/
def localRepo (s : Settings) (home : String) : LocalRepo :=
  { path := s.localRepository.getD (home ++ "/.m2/repository") }

end Settings

end RepoRouting
