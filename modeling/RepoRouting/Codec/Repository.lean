import RepoRouting.Codec.Policy
import RepoRouting.Repository
/-!
# Repository definitions in documents

Readers and writers of authentication, proxies, remote repository configurations,
project repositories and the local repository.

Written forms leave secrets out: an authentication is written `{username?, privateKey?}`,
a proxy `{type, host, port, username?, nonProxyHosts?}`. A remote configuration omits its
layout exactly when it is `default`, and reading puts `default` back.
-/

namespace RepoRouting.Codec

open Doc

/-- Reads an optional text field. -/
def readOptText (r : Reader) (p : Path) (n : Node) : Except DecodeError (Option String) :=
  r.optional (r.string "a string") p n

/-- Credentials as readers see them: every field has a default. -/
def authenticationShape : Shape :=
  ⟨"struct Authentication", [("username", false), ("password", false), ("privateKey", false),
    ("passphrase", false)], true⟩

/-- The fields of an authentication read so far. -/
structure AuthDraft where
  username : Option (Option String) := none
  password : Option (Option String) := none
  privateKey : Option (Option String) := none
  passphrase : Option (Option String) := none

/-- Reads credentials. -/
def readAuthentication (r : Reader) (p : Path) (n : Node) : Except DecodeError Authentication :=
  r.record authenticationShape p n ({} : AuthDraft)
    (fun d k kp v => match k with
      | "username" => do
        let x ← setOnce "username" d.username (readOptText r kp v)
        .ok { d with username := x }
      | "password" => do
        let x ← setOnce "password" d.password (readOptText r kp v)
        .ok { d with password := x }
      | "privateKey" => do
        let x ← setOnce "privateKey" d.privateKey (readOptText r kp v)
        .ok { d with privateKey := x }
      | "passphrase" => do
        let x ← setOnce "passphrase" d.passphrase (readOptText r kp v)
        .ok { d with passphrase := x }
      | _ => .ok d)
    (fun d => .ok
      { username := d.username.getD none, password := d.password.getD none
        privateKey := d.privateKey.getD none, passphrase := d.passphrase.getD none })

/-- Credentials as written: the password and passphrase stay out. -/
def authenticationNode (a : Authentication) : Node :=
  .ofFields (optField "username" a.username textNode ++ optField "privateKey" a.privateKey textNode)

/-- The keys a proxy is read from; `protocol` is another name for `type`. -/
def proxyKeys : List String :=
  ["type", "protocol", "host", "port", "username", "password", "nonProxyHosts"]

/-- A proxy as readers see it: only `host` must be given. -/
def proxyShape : Shape :=
  ⟨"struct Proxy", [("type", false), ("host", true), ("port", false), ("username", false),
    ("password", false), ("nonProxyHosts", false)], true⟩

/-- The fields of a proxy read so far. -/
structure ProxyDraft where
  protocol : Option String := none
  host : Option String := none
  port : Option UInt16 := none
  username : Option (Option String) := none
  password : Option (Option String) := none
  nonProxyHosts : Option (Option String) := none

/-- Reads a proxy; `host` is required. -/
def readProxy (r : Reader) (p : Path) (n : Node) : Except DecodeError Proxy :=
  r.record proxyShape p n ({} : ProxyDraft)
    (fun d k kp v => match k with
      | "type" | "protocol" => do
        let x ← setOnce "type" d.protocol (r.string "a string" kp v)
        .ok { d with protocol := x }
      | "host" => do
        let x ← setOnce "host" d.host (r.string "a string" kp v)
        .ok { d with host := x }
      | "port" => do
        let x ← setOnce "port" d.port (r.u16 kp v)
        .ok { d with port := x }
      | "username" => do
        let x ← setOnce "username" d.username (readOptText r kp v)
        .ok { d with username := x }
      | "password" => do
        let x ← setOnce "password" d.password (readOptText r kp v)
        .ok { d with password := x }
      | "nonProxyHosts" => do
        let x ← setOnce "nonProxyHosts" d.nonProxyHosts (readOptText r kp v)
        .ok { d with nonProxyHosts := x }
      | _ => .ok d)
    (fun d => do
      let host ← required "host" d.host
      .ok { protocol := d.protocol.getD "http", host, port := d.port.getD 8080
            username := d.username.getD none, password := d.password.getD none
            nonProxyHosts := d.nonProxyHosts.getD none })

/-- The fields of a proxy as written, in order. -/
def proxyFields (x : Proxy) : List (String × Node) :=
  [("type", textNode x.protocol), ("host", textNode x.host),
    ("port", .ofScalar (.int x.port.toNat))] ++
    optField "username" x.username textNode ++ optField "nonProxyHosts" x.nonProxyHosts textNode

/-- A proxy as written: the password stays out. -/
def proxyNode (x : Proxy) : Node := .ofFields (proxyFields x)

/-- The keys a remote configuration is read from. -/
def remoteKeys : List String :=
  ["id", "url", "layout", "releases", "snapshots", "authentication", "proxy", "refid"]

/-- A remote configuration as readers see it: every field has a default. -/
def remoteShape : Shape :=
  ⟨"struct RemoteRepositoryConfig", remoteKeys.map fun k => (k, false), true⟩

/-- The fields of a remote configuration read so far. -/
structure RemoteDraft where
  id : Option (Option String) := none
  url : Option String := none
  layout : Option String := none
  releases : Option (Option RepositoryPolicy) := none
  snapshots : Option (Option RepositoryPolicy) := none
  authentication : Option (Option Authentication) := none
  proxy : Option (Option Proxy) := none
  refid : Option (Option String) := none

/-- Reads a remote repository configuration. -/
def readRemote (r : Reader) (p : Path) (n : Node) : Except DecodeError RemoteConfig :=
  r.record remoteShape p n ({} : RemoteDraft)
    (fun d k kp v => match k with
      | "id" => do
        let x ← setOnce "id" d.id (readOptText r kp v)
        .ok { d with id := x }
      | "url" => do
        let x ← setOnce "url" d.url (r.string "a string" kp v)
        .ok { d with url := x }
      | "layout" => do
        let x ← setOnce "layout" d.layout (r.string "a string" kp v)
        .ok { d with layout := x }
      | "releases" => do
        let x ← setOnce "releases" d.releases (r.optional (readPolicy r) kp v)
        .ok { d with releases := x }
      | "snapshots" => do
        let x ← setOnce "snapshots" d.snapshots (r.optional (readPolicy r) kp v)
        .ok { d with snapshots := x }
      | "authentication" => do
        let x ← setOnce "authentication" d.authentication
          (r.optional (readAuthentication r) kp v)
        .ok { d with authentication := x }
      | "proxy" => do
        let x ← setOnce "proxy" d.proxy (r.optional (readProxy r) kp v)
        .ok { d with proxy := x }
      | "refid" => do
        let x ← setOnce "refid" d.refid (readOptText r kp v)
        .ok { d with refid := x }
      | _ => .ok d)
    (fun d => .ok
      { id := d.id.getD none, url := d.url.getD "", layout := d.layout.getD defaultLayout
        releases := d.releases.getD none, snapshots := d.snapshots.getD none
        authentication := d.authentication.getD none, proxy := d.proxy.getD none
        refid := d.refid.getD none })

/-- The fields of a remote configuration as written, in order; the layout only when it is
not `default`. -/
def remoteFields (c : RemoteConfig) : List (String × Node) :=
  optField "id" c.id textNode ++ [("url", textNode c.url)] ++
    (if c.layout == defaultLayout then [] else [("layout", textNode c.layout)]) ++
    optField "releases" c.releases policyNode ++ optField "snapshots" c.snapshots policyNode ++
    optField "authentication" c.authentication authenticationNode ++
    optField "proxy" c.proxy proxyNode ++ optField "refid" c.refid textNode

/-- A remote configuration as written. -/
def remoteNode (c : RemoteConfig) : Node := .ofFields (remoteFields c)

/-- A project repository as readers see it: only `url` must be given. -/
def projectRepoShape : Shape :=
  ⟨"struct ProjectRepository", [("id", false), ("name", false), ("url", true), ("layout", false),
    ("releases", false), ("snapshots", false)], true⟩

/-- The fields of a project repository read so far. -/
structure ProjectDraft where
  id : Option (Option String) := none
  name : Option (Option String) := none
  url : Option String := none
  layout : Option String := none
  releases : Option (Option RepositoryPolicy) := none
  snapshots : Option (Option RepositoryPolicy) := none

/-- Reads a project repository; `url` is required. -/
def readProjectRepo (r : Reader) (p : Path) (n : Node) : Except DecodeError ProjectRepo :=
  r.record projectRepoShape p n ({} : ProjectDraft)
    (fun d k kp v => match k with
      | "id" => do
        let x ← setOnce "id" d.id (readOptText r kp v)
        .ok { d with id := x }
      | "name" => do
        let x ← setOnce "name" d.name (readOptText r kp v)
        .ok { d with name := x }
      | "url" => do
        let x ← setOnce "url" d.url (r.string "a string" kp v)
        .ok { d with url := x }
      | "layout" => do
        let x ← setOnce "layout" d.layout (r.string "a string" kp v)
        .ok { d with layout := x }
      | "releases" => do
        let x ← setOnce "releases" d.releases (r.optional (readPolicy r) kp v)
        .ok { d with releases := x }
      | "snapshots" => do
        let x ← setOnce "snapshots" d.snapshots (r.optional (readPolicy r) kp v)
        .ok { d with snapshots := x }
      | _ => .ok d)
    (fun d => do
      let url ← required "url" d.url
      .ok { id := d.id.getD none, name := d.name.getD none, url
            layout := d.layout.getD defaultLayout, releases := d.releases.getD none
            snapshots := d.snapshots.getD none })

/-- A project repository as written: the layout always. -/
def projectRepoNode (x : ProjectRepo) : Node :=
  .ofFields (optField "id" x.id textNode ++ optField "name" x.name textNode ++
    [("url", textNode x.url), ("layout", textNode x.layout)] ++
    optField "releases" x.releases policyNode ++ optField "snapshots" x.snapshots policyNode)

/-- Reads a file system path. -/
def readPath (r : Reader) (p : Path) (n : Node) : Except DecodeError String :=
  r.string "path string" p n

/-- A local repository as readers see it: `path` must be given. -/
def localRepoShape : Shape :=
  ⟨"struct LocalRepository", [("path", true), ("layout", false)], true⟩

/-- The fields of a local repository read so far. -/
structure LocalDraft where
  path : Option String := none
  layout : Option String := none

/-- Reads a local repository; `path` is required. -/
def readLocalRepo (r : Reader) (p : Path) (n : Node) : Except DecodeError LocalRepo :=
  r.record localRepoShape p n ({} : LocalDraft)
    (fun d k kp v => match k with
      | "path" => do
        let x ← setOnce "path" d.path (readPath r kp v)
        .ok { d with path := x }
      | "layout" => do
        let x ← setOnce "layout" d.layout (r.string "a string" kp v)
        .ok { d with layout := x }
      | _ => .ok d)
    (fun d => do
      let path ← required "path" d.path
      .ok { path, layout := d.layout.getD defaultLayout })

/-- A local repository as written: `{path, layout}`. -/
def localRepoNode (x : LocalRepo) : Node :=
  .ofFields [("path", textNode x.path), ("layout", textNode x.layout)]

end RepoRouting.Codec
