import RepoRouting.Codec.Repository
import RepoRouting.Settings
/-!
# Settings in documents

Readers and writers of mirrors, servers, settings proxies and whole settings.

A settings proxy is a proxy's fields with an `id` and an `active` flag beside them. Its
own two fields are read in place; every other entry is first gathered as a plain value,
and the proxy is then read from the gathered entries whose keys are proxy fields. An error
in that second reading is reported at the settings proxy's mapping.
-/

namespace RepoRouting.Codec

open Doc

/-- Reads the remaining entries of a mapping with flattened fields: each key as its text,
each value gathered without places. -/
def gatherEntry (r : Reader) (kp : Path) (key : String) (v : Node) :
    Except DecodeError (Node × Node) := do
  let v' ← r.gather kp v
  .ok (.ofString key, v')

/-- The gathered entries whose keys a flattened structure reads. -/
def takeFields (keys : List String) (entries : List (Node × Node)) : List (Node × Node) :=
  entries.filter fun (k, _) => match k with
    | .scalar (.str s) _ => keys.contains s
    | _ => false

/-- A mirror as readers see it: all but `name` must be given. -/
def mirrorShape : Shape :=
  ⟨"struct Mirror", [("id", true), ("url", true), ("mirrorOf", true), ("name", false)], true⟩

/-- The fields of a mirror read so far. -/
structure MirrorDraft where
  id : Option String := none
  url : Option String := none
  mirrorOf : Option String := none
  name : Option (Option String) := none

/-- Reads a mirror; `id`, `url` and `mirrorOf` are required. -/
def readMirror (r : Reader) (p : Path) (n : Node) : Except DecodeError Mirror :=
  r.record mirrorShape p n ({} : MirrorDraft)
    (fun d k kp v => match k with
      | "id" => do
        let x ← setOnce "id" d.id (r.string "a string" kp v)
        .ok { d with id := x }
      | "url" => do
        let x ← setOnce "url" d.url (r.string "a string" kp v)
        .ok { d with url := x }
      | "mirrorOf" => do
        let x ← setOnce "mirrorOf" d.mirrorOf (r.string "a string" kp v)
        .ok { d with mirrorOf := x }
      | "name" => do
        let x ← setOnce "name" d.name (readOptText r kp v)
        .ok { d with name := x }
      | _ => .ok d)
    (fun d => do
      let id ← required "id" d.id
      let url ← required "url" d.url
      let mirrorOf ← required "mirrorOf" d.mirrorOf
      .ok { id, url, mirrorOf, name := d.name.getD none })

/-- A mirror as written. -/
def mirrorNode (m : Mirror) : Node :=
  .ofFields ([("id", textNode m.id), ("url", textNode m.url), ("mirrorOf", textNode m.mirrorOf)] ++
    optField "name" m.name textNode)

/-- A server as readers see it: `id` must be given. -/
def serverShape : Shape :=
  ⟨"struct Server", [("id", true), ("username", false), ("password", false),
    ("privateKey", false), ("passphrase", false)], true⟩

/-- The fields of a server read so far. -/
structure ServerDraft where
  id : Option String := none
  username : Option (Option String) := none
  password : Option (Option String) := none
  privateKey : Option (Option String) := none
  passphrase : Option (Option String) := none

/-- Reads a server; `id` is required. -/
def readServer (r : Reader) (p : Path) (n : Node) : Except DecodeError Server :=
  r.record serverShape p n ({} : ServerDraft)
    (fun d k kp v => match k with
      | "id" => do
        let x ← setOnce "id" d.id (r.string "a string" kp v)
        .ok { d with id := x }
      | "username" => do
        let x ← setOnce "username" d.username (readOptText r kp v)
        .ok { d with username := x }
      | "password" => do
        let x ← setOnce "password" d.password (readOptText r kp v)
        .ok { d with password := x }
      | "privateKey" => do
        let x ← setOnce "privateKey" d.privateKey (readOptText r kp v)
        .ok { d with privateKey := x }
      | "passphrase" => do
        let x ← setOnce "passphrase" d.passphrase (readOptText r kp v)
        .ok { d with passphrase := x }
      | _ => .ok d)
    (fun d => do
      let id ← required "id" d.id
      .ok { id, username := d.username.getD none, password := d.password.getD none
            privateKey := d.privateKey.getD none, passphrase := d.passphrase.getD none })

/-- A server as written: its stored password included. -/
def serverNode (s : Server) : Node :=
  .ofFields ([("id", textNode s.id)] ++ optField "username" s.username textNode ++
    optField "password" s.password textNode ++ optField "privateKey" s.privateKey textNode ++
    optField "passphrase" s.passphrase textNode)

/-- A settings proxy as readers see it: its own fields have defaults, and as a proxy's fields
stand beside them, it is only read from a mapping. -/
def settingsProxyShape : Shape :=
  ⟨"struct SettingsProxy", [("id", false), ("active", false)], false⟩

/-- The fields of a settings proxy read so far, with the gathered other entries. -/
structure SettingsProxyDraft where
  id : Option (Option String) := none
  active : Option Bool := none
  rest : List (Node × Node) := []

/-- Reads a settings proxy. -/
def readSettingsProxy (r : Reader) (p : Path) (n : Node) : Except DecodeError SettingsProxy :=
  r.record settingsProxyShape p n ({} : SettingsProxyDraft)
    (fun d k kp v => match k with
      | "id" => do
        let x ← setOnce "id" d.id (readOptText r kp v)
        .ok { d with id := x }
      | "active" => do
        let x ← setOnce "active" d.active (r.bool kp v)
        .ok { d with active := x }
      | _ => do
        let e ← gatherEntry r kp k v
        .ok { d with rest := d.rest ++ [e] })
    (fun d => do
      let proxy ← readProxy r.gathered p (.map (takeFields proxyKeys d.rest) none {} true)
      .ok { id := d.id.getD none, active := d.active.getD true, proxy })

/-- A settings proxy as written: `id` (null when absent), `active`, then the proxy's
fields. -/
def settingsProxyNode (x : SettingsProxy) : Node :=
  .ofFields ([("id", match x.id with
      | some i => textNode i
      | none => .ofScalar .null),
    ("active", boolNode x.active)] ++ proxyFields x.proxy)

/-- Settings as readers see them: every field has a default. -/
def settingsShape : Shape :=
  ⟨"struct Settings", [("localRepository", false), ("offline", false), ("mirrors", false),
    ("servers", false), ("proxies", false)], true⟩

/-- The fields of settings read so far. -/
structure SettingsDraft where
  localRepository : Option (Option String) := none
  offline : Option Bool := none
  mirrors : Option (List Mirror) := none
  servers : Option (List Server) := none
  proxies : Option (List SettingsProxy) := none

/-- Reads settings; every field has a default. -/
def readSettings (r : Reader) (p : Path) (n : Node) : Except DecodeError Settings :=
  r.record settingsShape p n ({} : SettingsDraft)
    (fun d k kp v => match k with
      | "localRepository" => do
        let x ← setOnce "localRepository" d.localRepository (r.optional (readPath r) kp v)
        .ok { d with localRepository := x }
      | "offline" => do
        let x ← setOnce "offline" d.offline (r.bool kp v)
        .ok { d with offline := x }
      | "mirrors" => do
        let x ← setOnce "mirrors" d.mirrors (r.list (readMirror r) kp v)
        .ok { d with mirrors := x }
      | "servers" => do
        let x ← setOnce "servers" d.servers (r.list (readServer r) kp v)
        .ok { d with servers := x }
      | "proxies" => do
        let x ← setOnce "proxies" d.proxies (r.list (readSettingsProxy r) kp v)
        .ok { d with proxies := x }
      | _ => .ok d)
    (fun d => .ok
      { localRepository := d.localRepository.getD none, offline := d.offline.getD false
        mirrors := d.mirrors.getD [], servers := d.servers.getD []
        proxies := d.proxies.getD [] })

/-- Settings as written. -/
def settingsNode (s : Settings) : Node :=
  .ofFields (optField "localRepository" s.localRepository textNode ++
    [("offline", boolNode s.offline), ("mirrors", .ofList (s.mirrors.map mirrorNode)),
     ("servers", .ofList (s.servers.map serverNode)),
     ("proxies", .ofList (s.proxies.map settingsProxyNode))])

end RepoRouting.Codec
