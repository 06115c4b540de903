import RepoRouting.Policy
/-!
# Repository definitions

What a build configures about repositories before they are collected:

* `RemoteConfig`: a remote repository as configured on a task or declared by a project,
  possibly only a reference (`refid`) to a named definition;
* `ProjectRepo`: a repository block of a project definition;
* `LocalRepo`: the local artifact cache;
* `Authentication` and `Proxy`: how a repository is reached.

A configured id counts only when it is not blank and does not merely repeat the url
(`RemoteConfig.explicitId?`); otherwise the collector derives one from the url.
-/

namespace RepoRouting

/-- The layout used when none is configured. -/
def defaultLayout : String := "default"

/-- The layouts a resolution engine can address. -/
def knownLayouts : List String := ["default", "legacy"]

/-- Credentials for a repository. The password and passphrase are secrets: they are read
but never written out. -/
structure Authentication where
  username : Option String := none
  password : Option String := none
  privateKey : Option String := none
  passphrase : Option String := none
deriving DecidableEq, Repr, Inhabited

/-- Username and password credentials. -/
def Authentication.basic (username password : String) : Authentication :=
  { username := some username, password := some password }

/-- A proxy that repositories are reached through. Its password is a secret. -/
structure Proxy where
  protocol : String := "http"
  host : String
  port : UInt16 := 8080
  username : Option String := none
  password : Option String := none
  /-- Host patterns, separated by `|`, that bypass the proxy. -/
  nonProxyHosts : Option String := none
deriving DecidableEq, Repr, Inhabited

/-- An HTTP proxy without credentials. -/
def Proxy.http (host : String) (port : UInt16) : Proxy := { host, port }

/-- A remote repository before collection. -/
structure RemoteConfig where
  /-- The configured id; derived from the url when absent or unusable. -/
  id : Option String := none
  url : String := ""
  layout : String := defaultLayout
  releases : Option RepositoryPolicy := none
  snapshots : Option RepositoryPolicy := none
  authentication : Option Authentication := none
  proxy : Option Proxy := none
  /-- The name of a registered definition that this entry stands for. -/
  refid : Option String := none
deriving DecidableEq, Repr, Inhabited

namespace RemoteConfig

/-- A repository with an explicit id. -/
def withId (id url : String) : RemoteConfig := { id := some id, url }

/-- A repository whose id is derived from its url. -/
def withoutId (url : String) : RemoteConfig := { url }

/-- An entry standing for a registered definition. -/
def reference (refid : String) : RemoteConfig := { refid := some refid }

/-- The configured id, when it can serve as one: not blank and not the url itself. -/
def explicitId? (c : RemoteConfig) : Option String :=
  c.id.filter fun id => !Text.isBlankText id && id != c.url

end RemoteConfig

/-- A repository block of a project definition. The name is for people only. -/
structure ProjectRepo where
  id : Option String := none
  name : Option String := none
  url : String
  layout : String := defaultLayout
  releases : Option RepositoryPolicy := none
  snapshots : Option RepositoryPolicy := none
deriving DecidableEq, Repr, Inhabited

/-- The collector's form of a project repository: the name is dropped. -/
def ProjectRepo.toRemote (r : ProjectRepo) : RemoteConfig :=
  { id := r.id, url := r.url, layout := r.layout, releases := r.releases,
    snapshots := r.snapshots }

/-- The local artifact cache. -/
structure LocalRepo where
  path : String
  layout : String := defaultLayout
deriving DecidableEq, Repr, Inhabited

namespace LocalRepo

/-- The id every local repository is known by. -/
def id : String := "local"

/-- The `file://` url of the cache's root. -/
def url (r : LocalRepo) : String := "file://" ++ r.path

end LocalRepo

end RepoRouting
