import RepoRouting.Mirror
import RepoRouting.Registry
import RepoRouting.Credentials
import RepoRouting.Digest.Md5
import RepoRouting.Log
/-!
# Collecting the remote repositories of a build step

The repositories a build step consults: those configured on the task, then those declared
by the project, or the central repository alone when there are none.

1. Each entry, at its position from one, is prepared: a reference is replaced by the
   definition it names, the url must not be blank, the id is settled (the configured one if
   usable, else the digest of the url, else `default`), and the layout is trimmed, `default`
   when empty, and must be known. The first entry that fails stops the whole collection.
2. The first entry for each id is kept.
3. A mirror that serves an entry takes its place: the entry gets the mirror's id and url
   and remembers where it came from.
4. The first entry for each id is kept again, so repositories served by one mirror become
   one.
5. An entry without credentials gets those of the server with its id, the password made
   usable (or kept as stored when that fails); an entry without a proxy gets the active one.

`Collector.trace` gives the log lines a collection writes, in the order it writes them.
-/

namespace RepoRouting

/-- Where a repository's id comes from when its configuration gives none: the id derived
from a url, or why there is none. -/
structure IdSource where
  generate : String → Except String String

namespace IdSource

/-- The MD5 digest of the url. -/
def digest : IdSource := ⟨fun url => .ok (Digest.md5Hex url)⟩

/-- A source that always fails. -/
def unavailable : IdSource :=
  ⟨fun _ => .error "Digest algorithm MD5 is not available: no provider"⟩

end IdSource

/-- The id used when none can be derived. -/
def fallbackId : String := "default"

/-- The repository used when nothing else is configured. -/
def centralRepository : RemoteConfig :=
  { id := some "central", url := "https://repo1.maven.org/maven2"
    snapshots := some RepositoryPolicy.disabledChannel }

/-- The identity a repository had before a mirror took its place. -/
structure Origin where
  id : String
  url : String
deriving DecidableEq, Repr, Inhabited

/-- A remote repository after collection. -/
structure Resolved where
  id : String
  url : String
  layout : String
  releases : EffectivePolicy
  snapshots : EffectivePolicy
  authentication : Option Authentication := none
  proxy : Option Proxy := none
  mirroredFrom : Option Origin := none
deriving DecidableEq, Repr, Inhabited

namespace Resolved

/-- The user name of the attached credentials. -/
def principal? (r : Resolved) : Option String :=
  r.authentication.bind (·.username)

/-- The host of the attached proxy. -/
def proxyHost? (r : Resolved) : Option String :=
  r.proxy.map (·.host)

/-- One line about a repository: id, url, channel states, then user and proxy if any. -/
def display (r : Resolved) : String :=
  "id=" ++ r.id ++ ", url=" ++ r.url ++ ", releases=" ++ r.releases.status ++
    ", snapshots=" ++ r.snapshots.status ++
    (match r.principal? with
      | some u => ", authentication=" ++ u
      | none => "") ++
    (match r.proxyHost? with
      | some h => ", proxy=" ++ h
      | none => "")

end Resolved

/-- An entry whose reference is resolved and whose id and layout are settled. -/
structure Prepared where
  id : String
  config : RemoteConfig
deriving DecidableEq, Repr, Inhabited

/-- Keeps the first element for each key, in order; `seen` holds the keys kept so far. -/
def firstByKey (key : α → String) (seen : List String) : List α → List α
  | [] => []
  | x :: rest =>
    if seen.contains (key x) then firstByKey key seen rest
    else x :: firstByKey key (key x :: seen) rest

/-- What a collection works with. -/
structure Collector where
  settings : Settings
  registry : Option Registry := none
  decryptor : Decryptor := .plaintext
  ids : IdSource := .digest

namespace Collector

/-- The entries to collect: configured then declared, or the central repository alone. -/
def entries (configured declared : List RemoteConfig) : List RemoteConfig :=
  match configured ++ declared with
  | [] => [centralRepository]
  | all => all

/-- The definition an entry stands for. Without a registry every reference fails. -/
def resolveRef (k : Collector) (c : RemoteConfig) : Except ConfigError RemoteConfig :=
  match c.refid, k.registry with
  | none, _ => .ok c
  | some _, some reg => reg.resolve c
  | some ref, none => .error (.unresolvedReference ref)

/-- The settled id: the configured one if usable, else derived from the untrimmed url. -/
def settleId (k : Collector) (c : RemoteConfig) : String :=
  match c.explicitId? with
  | some id => id
  | none =>
    match k.ids.generate c.url with
    | .ok id => id
    | .error _ => fallbackId

/-- A layout trimmed, `default` when empty. -/
def settleLayout (layout : String) : String :=
  let t := Text.trim layout
  if t.isEmpty then defaultLayout else t

/-- Prepares the entry at a position. -/
def prepare (k : Collector) (position : Nat) (c : RemoteConfig) : Except ConfigError Prepared := do
  let c ← k.resolveRef c
  if Text.isBlankText c.url then throw (.emptyUrl position c.id)
  let id := k.settleId c
  let layout := settleLayout c.layout
  if !knownLayouts.contains layout then throw (.unknownLayout id layout)
  .ok ⟨id, { c with id := some id, layout }⟩

/-- Prepares entries from a position on; the first failure stops. -/
def prepareFrom (k : Collector) : Nat → List RemoteConfig → Except ConfigError (List Prepared)
  | _, [] => .ok []
  | position, c :: rest => do
    let p ← k.prepare position c
    let ps ← k.prepareFrom (position + 1) rest
    .ok (p :: ps)

/-- An entry as a collected repository, before mirrors and credentials. -/
def toResolved (p : Prepared) : Resolved :=
  { id := p.id, url := p.config.url, layout := p.config.layout
    releases := EffectivePolicy.ofConfig p.config.releases
    snapshots := EffectivePolicy.ofConfig p.config.snapshots
    authentication := p.config.authentication, proxy := p.config.proxy }

/-- Puts the mirror serving a repository in its place. -/
def applyMirror (k : Collector) (r : Resolved) : Resolved :=
  match findMirror r.id r.url k.settings.mirrors with
  | some (m, _) => { r with id := m.id, url := m.url, mirroredFrom := some ⟨r.id, r.url⟩ }
  | none => r

/-- The credentials a server gives, the password made usable or kept as stored. -/
def credentialsOf (k : Collector) (s : Server) : Authentication :=
  { username := s.username
    password := s.password.map fun stored =>
      match k.decryptor.decrypt stored with
      | .ok plain => plain
      | .error _ => stored
    privateKey := s.privateKey, passphrase := s.passphrase }

/-- Attaches stored credentials and the active proxy where none are configured. -/
def attach (k : Collector) (r : Resolved) : Resolved :=
  { r with
    authentication := r.authentication.or ((k.settings.server? r.id).map k.credentialsOf)
    proxy := r.proxy.or k.settings.activeProxy? }

/-- The repositories of a build step, or the first configuration error. -/
def collect (k : Collector) (configured declared : List RemoteConfig) :
    Except ConfigError (List Resolved) := do
  let prepared ← k.prepareFrom 1 (entries configured declared)
  let kept := firstByKey Prepared.id [] prepared
  let mirrored := kept.map (k.applyMirror ∘ toResolved)
  let served := firstByKey Resolved.id [] mirrored
  .ok (served.map k.attach)

/-! ## Log lines -/

/-- The warnings preparing an entry writes: one when its id must be derived, and one more
when that fails. An entry that fails before its id is settled writes none. -/
def entryNotes (k : Collector) (c : RemoteConfig) : List LogLine :=
  match k.resolveRef c with
  | .error _ => []
  | .ok c =>
    if Text.isBlankText c.url then []
    else match c.explicitId? with
      | some _ => []
      | none =>
        ⟨.collection, .warn, "Each remote repository should specify a unique id (url " ++ c.url ++ ")"⟩ ::
          (match k.ids.generate c.url with
            | .ok _ => []
            | .error e => [⟨.ids, .warn, "Unable to generate unique repository id: " ++ e⟩])

/-- The warnings of preparing entries from a position on, up to the first failure. -/
def prepareNotes (k : Collector) : Nat → List RemoteConfig → List LogLine
  | _, [] => []
  | position, c :: rest =>
    match k.prepare position c with
    | .ok _ => k.entryNotes c ++ k.prepareNotes (position + 1) rest
    | .error _ => k.entryNotes c

/-- The lines of keeping first entries and applying mirrors: each entry either is a
duplicate or may be mirrored. -/
def mirrorNotes (k : Collector) (seen : List String) : List Prepared → List LogLine
  | [] => []
  | p :: rest =>
    if seen.contains p.id then
      ⟨.collection, .debug, "Skipping duplicate repository id=" ++ p.id ++ ", url=" ++ p.config.url⟩ ::
        k.mirrorNotes seen rest
    else
      let line := match findMirror p.id p.config.url k.settings.mirrors with
        | some (m, _) =>
          [⟨.collection, .debug, "Repository " ++ p.id ++ " (" ++ p.config.url ++ ") is mirrored by " ++
            m.id ++ " (" ++ m.url ++ ")"⟩]
        | none => []
      line ++ k.mirrorNotes (p.id :: seen) rest

/-- The lines of merging mirrored entries and attaching credentials. -/
def attachNotes (k : Collector) (seen : List String) : List Resolved → List LogLine
  | [] => []
  | r :: rest =>
    if seen.contains r.id then
      ⟨.collection, .debug, "Repository already served by mirror " ++ r.id⟩ :: k.attachNotes seen rest
    else
      let line := match r.authentication, k.settings.server? r.id with
        | none, some s =>
          match s.password with
          | some stored =>
            match k.decryptor.decrypt stored with
            | .error reason => [⟨.credentials, .warn, "Server '" ++ s.id ++ "': " ++ decryptFailure reason⟩]
            | .ok _ => []
          | none => []
        | _, _ => []
      line ++ k.attachNotes (r.id :: seen) rest

/-- The log lines of a collection, in the order written. -/
def trace (k : Collector) (configured declared : List RemoteConfig) : List LogLine :=
  let es := entries configured declared
  let notes := k.prepareNotes 1 es
  match k.prepareFrom 1 es with
  | .error _ => notes
  | .ok prepared =>
    let kept := firstByKey Prepared.id [] prepared
    let mirrored := kept.map (k.applyMirror ∘ toResolved)
    let served := firstByKey Resolved.id [] mirrored
    notes ++ k.mirrorNotes [] prepared ++ k.attachNotes [] mirrored ++
      (served.map k.attach).map fun r => ⟨.collection, .info, "Using remote repository: " ++ r.display⟩

end Collector

end RepoRouting
