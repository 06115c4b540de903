import RepoRouting.Codec.Build
import RepoRouting.Proofs.PolicyWords
import RepoRouting.Proofs.Reading

/-!
# Written values read back

Every value written as a document reads back, by any reader, as itself with its secrets left
out: the password and passphrase of an authentication and the password of a proxy, wherever
they stand (`redacted`). Servers keep their stored passwords, and a build file loses its base
directory, which is never written. `read_written_eq_redacted` gathers the round trips.

Each structure's reader takes its writer's node by folding its field steps over the written
fields one segment at a time (`Reader.record_ofFields_of_ok`); a field left out because it
has its default reads back as that default. The settings proxy and the named definition
have flattened fields: they gather their other entries and read the proxy or configuration
from those, which are exactly its written fields (`readSettingsProxy_ofFields`,
`readNamedRepo_ofFields`).

Where a port is written, the lemmas take its node as a hypothesis about what it reads as,
and never as the node itself: a proof that sees the node could have its range check
evaluated by the kernel on a port it does not know.
-/

namespace RepoRouting

/-! ## What a written value keeps -/

/-- Credentials without their secrets. -/
def Authentication.redacted (a : Authentication) : Authentication :=
  { a with password := none, passphrase := none }

/-- A proxy without its password. -/
def Proxy.redacted (x : Proxy) : Proxy := { x with password := none }

/-- A remote configuration whose credentials and proxy lost their secrets. -/
def RemoteConfig.redacted (c : RemoteConfig) : RemoteConfig :=
  { c with authentication := c.authentication.map Authentication.redacted
           proxy := c.proxy.map Proxy.redacted }

/-- A settings proxy whose proxy lost its password. -/
def SettingsProxy.redacted (x : SettingsProxy) : SettingsProxy :=
  { x with proxy := x.proxy.redacted }

/-- Settings whose proxies lost their passwords; servers keep theirs. -/
def Settings.redacted (s : Settings) : Settings :=
  { s with proxies := s.proxies.map SettingsProxy.redacted }

/-- A named definition whose configuration lost its secrets. -/
def NamedRepo.redacted (x : NamedRepo) : NamedRepo := { x with repo := x.repo.redacted }

/-- A build file as written: its definitions without secrets, and no base directory. -/
def BuildFile.redacted (b : BuildFile) : BuildFile :=
  { b with references := b.references.map NamedRepo.redacted
           repositories := b.repositories.map RemoteConfig.redacted
           baseDir := none }

namespace Codec

open Doc

variable (r : Reader) (p : Path)

/-! ## Policies -/

@[simp] theorem readUpdatePolicy_render (u : UpdatePolicy) :
    readUpdatePolicy r p (.ofString u.render) = .ok u := by
  simp [readUpdatePolicy, UpdatePolicy.parse?_render, bind, Except.bind]

@[simp] theorem readChecksumPolicy_render (c : ChecksumPolicy) :
    readChecksumPolicy r p (.ofString c.render) = .ok c := by
  simp [readChecksumPolicy, ChecksumPolicy.parse?_render, bind, Except.bind]

theorem readPolicy_policyNode (x : RepositoryPolicy) : readPolicy r p (policyNode x) = .ok x := by
  unfold readPolicy policyNode
  refine Reader.record_ofFields_of_ok r p (foldlM_append_of_ok (foldlM_append_of_ok
    (foldlM_field_of_ok (fun d x => { d with enabled := x }) (some x.enabled) ?_)
    (foldlM_optField_of_ok (fun d x => { d with updatePolicy := x }) some (by rfl) fun u => ?_))
    (foldlM_optField_of_ok (fun d x => { d with checksumPolicy := x }) some (by rfl)
      fun c => ?_)) ?_
  · simp [entryStep, setOnce, Except.map, bind, Except.bind]
  · simp [entryStep, setOnce, Except.map, bind, Except.bind]
  · simp [entryStep, setOnce, Except.map, bind, Except.bind]
  · simp

theorem readEffective_effectiveNode (x : EffectivePolicy) :
    readEffective r p (effectiveNode x) = .ok x := by
  unfold readEffective effectiveNode
  refine Reader.record_ofFields_of_ok r p
    (foldlM_cons_of_ok (fun d x => { d with enabled := x }) (some x.enabled) ?_
      (foldlM_cons_of_ok (fun d x => { d with update := x }) (some x.update) ?_
        (foldlM_field_of_ok (fun d x => { d with checksum := x }) (some x.checksum) ?_))) ?_
  all_goals simp [entryStep, setOnce, required, Except.map, bind, Except.bind]

/-! ## Repository definitions -/

theorem readAuthentication_authenticationNode (a : Authentication) :
    readAuthentication r p (authenticationNode a) = .ok a.redacted := by
  unfold readAuthentication authenticationNode
  refine Reader.record_ofFields_of_ok r p (foldlM_append_of_ok
    (foldlM_optField_of_ok (fun d x => { d with username := x }) some (by rfl) fun s => ?_)
    (foldlM_optField_of_ok (fun d x => { d with privateKey := x }) some (by rfl) fun s => ?_)) ?_
  all_goals simp [entryStep, setOnce, readOptText, Authentication.redacted, Except.map, bind,
    Except.bind]

/-- A proxy's written fields read back, with any node in place of its port that reads as
the port. The node stays abstract here, so that checking the proof never evaluates the range
check of a port it cannot see. -/
theorem readProxy_ofFields_of_port {x : Proxy} {port : Node}
    (hport : ∀ q, r.u16 q port = .ok x.port) :
    readProxy r p (.ofFields ([("type", textNode x.protocol), ("host", textNode x.host),
      ("port", port)] ++ optField "username" x.username textNode ++
      optField "nonProxyHosts" x.nonProxyHosts textNode)) = .ok x.redacted := by
  unfold readProxy
  simp only [List.cons_append, List.nil_append]
  refine Reader.record_ofFields_of_ok r p
    (foldlM_cons_of_ok (fun d x => { d with protocol := x }) (some x.protocol) ?_
      (foldlM_cons_of_ok (fun d x => { d with host := x }) (some x.host) ?_
        (foldlM_cons_of_ok (fun d x => { d with port := x }) (some x.port) ?_
          (foldlM_append_of_ok
            (foldlM_optField_of_ok (fun d x => { d with username := x }) some (by rfl)
              fun s => ?_)
            (foldlM_optField_of_ok (fun d x => { d with nonProxyHosts := x }) some (by rfl)
              fun s => ?_))))) ?_
  all_goals simp [entryStep, setOnce, readOptText, required, hport, Proxy.redacted, Except.map,
    bind, Except.bind]

theorem readProxy_proxyNode (x : Proxy) : readProxy r p (proxyNode x) = .ok x.redacted :=
  readProxy_ofFields_of_port r p fun q => Reader.u16_ofScalar r q x.port

/-! ## Written structures read as optional values -/

@[simp] theorem optional_readPolicy_policyNode (x : RepositoryPolicy) :
    r.optional (readPolicy r) p (policyNode x) = .ok (some x) :=
  Reader.optional_ofFields_of_ok r p (readPolicy_policyNode r p x)

@[simp] theorem optional_readAuthentication_authenticationNode (a : Authentication) :
    r.optional (readAuthentication r) p (authenticationNode a) = .ok (some a.redacted) :=
  Reader.optional_ofFields_of_ok r p (readAuthentication_authenticationNode r p a)

@[simp] theorem optional_readProxy_proxyNode (x : Proxy) :
    r.optional (readProxy r) p (proxyNode x) = .ok (some x.redacted) :=
  Reader.optional_ofFields_of_ok r p (readProxy_proxyNode r p x)

theorem readRemote_remoteNode (c : RemoteConfig) :
    readRemote r p (remoteNode c) = .ok c.redacted := by
  unfold readRemote remoteNode remoteFields
  simp only [ite_nil_eq_optField, List.append_assoc, List.singleton_append]
  refine Reader.record_ofFields_of_ok r p
    (foldlM_append_of_ok
      (foldlM_optField_of_ok (fun d x => { d with id := x }) some (by rfl) fun s => ?_)
      (foldlM_cons_of_ok (fun d x => { d with url := x }) (some c.url) ?_
        (foldlM_append_of_ok
          (foldlM_optField_of_ok (fun d x => { d with layout := x }) id (by rfl) fun s => ?_)
          (foldlM_append_of_ok
            (foldlM_optField_of_ok (fun d x => { d with releases := x }) some (by rfl)
              fun x => ?_)
            (foldlM_append_of_ok
              (foldlM_optField_of_ok (fun d x => { d with snapshots := x }) some (by rfl)
                fun x => ?_)
              (foldlM_append_of_ok
                (foldlM_optField_of_ok (fun d x => { d with authentication := x })
                  (fun a => some a.redacted) (by rfl) fun a => ?_)
                (foldlM_append_of_ok
                  (foldlM_optField_of_ok (fun d x => { d with proxy := x })
                    (fun x => some x.redacted) (by rfl) fun x => ?_)
                  (foldlM_optField_of_ok (fun d x => { d with refid := x }) some (by rfl)
                    fun s => ?_)))))))) ?_
  all_goals simp [entryStep, setOnce, readOptText, RemoteConfig.redacted, Except.map, bind,
    Except.bind]
  -- the layout is left out exactly when it is the default, which reading puts back
  by_cases hlayout : c.layout = defaultLayout <;> simp [hlayout]

theorem readProjectRepo_projectRepoNode (x : ProjectRepo) :
    readProjectRepo r p (projectRepoNode x) = .ok x := by
  unfold readProjectRepo projectRepoNode
  simp only [List.append_assoc, List.cons_append, List.nil_append]
  refine Reader.record_ofFields_of_ok r p
    (foldlM_append_of_ok
      (foldlM_optField_of_ok (fun d x => { d with id := x }) some (by rfl) fun s => ?_)
      (foldlM_append_of_ok
        (foldlM_optField_of_ok (fun d x => { d with name := x }) some (by rfl) fun s => ?_)
        (foldlM_cons_of_ok (fun d x => { d with url := x }) (some x.url) ?_
          (foldlM_cons_of_ok (fun d x => { d with layout := x }) (some x.layout) ?_
            (foldlM_append_of_ok
              (foldlM_optField_of_ok (fun d x => { d with releases := x }) some (by rfl)
                fun x => ?_)
              (foldlM_optField_of_ok (fun d x => { d with snapshots := x }) some (by rfl)
                fun x => ?_)))))) ?_
  all_goals simp [entryStep, setOnce, readOptText, required, Except.map, bind, Except.bind]

/-! ## Settings -/

theorem readMirror_mirrorNode (m : Mirror) : readMirror r p (mirrorNode m) = .ok m := by
  unfold readMirror mirrorNode
  simp only [List.cons_append, List.nil_append]
  refine Reader.record_ofFields_of_ok r p
    (foldlM_cons_of_ok (fun d x => { d with id := x }) (some m.id) ?_
      (foldlM_cons_of_ok (fun d x => { d with url := x }) (some m.url) ?_
        (foldlM_cons_of_ok (fun d x => { d with mirrorOf := x }) (some m.mirrorOf) ?_
          (foldlM_optField_of_ok (fun d x => { d with name := x }) some (by rfl)
            fun s => ?_)))) ?_
  all_goals simp [entryStep, setOnce, readOptText, required, Except.map, bind, Except.bind]

theorem readServer_serverNode (x : Server) : readServer r p (serverNode x) = .ok x := by
  unfold readServer serverNode
  simp only [List.append_assoc, List.singleton_append]
  refine Reader.record_ofFields_of_ok r p
    (foldlM_cons_of_ok (fun d x => { d with id := x }) (some x.id) ?_
      (foldlM_append_of_ok
        (foldlM_optField_of_ok (fun d x => { d with username := x }) some (by rfl) fun s => ?_)
        (foldlM_append_of_ok
          (foldlM_optField_of_ok (fun d x => { d with password := x }) some (by rfl)
            fun s => ?_)
          (foldlM_append_of_ok
            (foldlM_optField_of_ok (fun d x => { d with privateKey := x }) some (by rfl)
              fun s => ?_)
            (foldlM_optField_of_ok (fun d x => { d with passphrase := x }) some (by rfl)
              fun s => ?_))))) ?_
  all_goals simp [entryStep, setOnce, readOptText, required, Except.map, bind, Except.bind]

/-- The fields of a written proxy are proxy fields, written as readers gather them. -/
theorem mem_proxyFields {x : Proxy} {kv : String × Node} (h : kv ∈ proxyFields x) :
    kv.1 ∈ proxyKeys ∧ kv.2.Written := by
  simp only [proxyFields, List.mem_append, List.mem_cons, List.not_mem_nil, or_false,
    mem_optField] at h
  rcases h with ((rfl | rfl | rfl) | ⟨s, -, rfl⟩) | ⟨s, -, rfl⟩
  · exact ⟨by simp [proxyKeys], .str _⟩
  · exact ⟨by simp [proxyKeys], .str _⟩
  · exact ⟨by simp [proxyKeys], Node.written_port _⟩
  · exact ⟨by simp [proxyKeys], .str _⟩
  · exact ⟨by simp [proxyKeys], .str _⟩

/-- A written field is gathered as it was written. -/
theorem gatherEntry_of_written {v : Node} (hv : v.Written) (kp : Path) (k : String) :
    gatherEntry r kp k v = .ok (.ofString k, v) := by
  simp [gatherEntry, Reader.gather_of_written r hv, bind, Except.bind]

/-- Taking the entries whose keys a structure reads keeps all of them when every key is
one. -/
theorem takeFields_of_forall_mem {keys : List String} {fs : List (String × Node)}
    (h : ∀ kv ∈ fs, kv.1 ∈ keys) :
    takeFields keys (fs.map fun kv => (Node.ofString kv.1, kv.2)) =
      fs.map fun kv => (Node.ofString kv.1, kv.2) := by
  refine List.filter_eq_self.mpr fun e he => ?_
  obtain ⟨kv, hkv, rfl⟩ := List.mem_map.mp he
  simpa [Node.ofString] using h kv hkv

/-- A settings proxy reads its `id` and `active` in place and its proxy from the other
fields, gathered as they were written. The fields are left abstract: a proxy is read from
them only through `hproxy`. -/
theorem readSettingsProxy_ofFields {id : Option String} {idNode : Node} {active : Bool}
    {fs : List (String × Node)} {proxy : Proxy} (hid : ∀ q, readOptText r q idNode = .ok id)
    (hfields : ∀ kv ∈ fs, kv.1 ∈ proxyKeys ∧ kv.2.Written)
    (hproxy : readProxy r.gathered p (.ofFields fs) = .ok proxy) :
    readSettingsProxy r p (.ofFields ([("id", idNode), ("active", boolNode active)] ++ fs)) =
      .ok { id, active, proxy } := by
  unfold readSettingsProxy
  simp only [List.cons_append, List.nil_append]
  let gathered : List (String × Node) → SettingsProxyDraft := fun fs =>
    { id := some id, active := some active, rest := fs.map fun kv => (.ofString kv.1, kv.2) }
  refine Reader.record_ofFields_of_ok r p
    (foldlM_cons_of_ok (fun d x => { d with id := x }) (some id) ?_
      (foldlM_cons_of_ok (fun d x => { d with active := x }) (some active) ?_
        (foldlM_eq_of_step_snoc gathered ?_ []))) ?_
  · simp [entryStep, setOnce, hid, Except.map, bind, Except.bind]
  · simp [entryStep, setOnce, Except.map, bind, Except.bind]
  · -- every other field is a proxy field, gathered as it was written
    intro pre kv hkv
    obtain ⟨hkey, hwritten⟩ := hfields kv hkv
    obtain ⟨k, v⟩ := kv
    simp only [entryStep]
    split
    · simp [proxyKeys] at hkey
    · simp [proxyKeys] at hkey
    · simp [gatherEntry_of_written r hwritten, gathered, bind, Except.bind]
  · have htake := takeFields_of_forall_mem fun kv hkv => (hfields kv hkv).1
    simp only [Node.ofFields] at hproxy
    simp [gathered, htake, hproxy, bind, Except.bind]

theorem readSettingsProxy_settingsProxyNode (x : SettingsProxy) :
    readSettingsProxy r p (settingsProxyNode x) = .ok x.redacted :=
  readSettingsProxy_ofFields r p (fun q => by cases x.id <;> rfl) (fun _ hkv => mem_proxyFields hkv)
    (readProxy_proxyNode r.gathered p x.proxy)

@[simp] theorem list_readMirror_mirrorNode (ms : List Mirror) :
    r.list (readMirror r) p (.ofList (ms.map mirrorNode)) = .ok ms := by
  simpa using Reader.list_ofList r p (readMirror_mirrorNode r) ms

@[simp] theorem list_readServer_serverNode (xs : List Server) :
    r.list (readServer r) p (.ofList (xs.map serverNode)) = .ok xs := by
  simpa using Reader.list_ofList r p (readServer_serverNode r) xs

@[simp] theorem list_readSettingsProxy_settingsProxyNode (xs : List SettingsProxy) :
    r.list (readSettingsProxy r) p (.ofList (xs.map settingsProxyNode)) =
      .ok (xs.map SettingsProxy.redacted) :=
  Reader.list_ofList r p (readSettingsProxy_settingsProxyNode r) xs

theorem readSettings_settingsNode (s : Settings) :
    readSettings r p (settingsNode s) = .ok s.redacted := by
  unfold readSettings settingsNode
  refine Reader.record_ofFields_of_ok r p
    (foldlM_append_of_ok
      (foldlM_optField_of_ok (fun d x => { d with localRepository := x }) some (by rfl)
        fun s => ?_)
      (foldlM_cons_of_ok (fun d x => { d with offline := x }) (some s.offline) ?_
        (foldlM_cons_of_ok (fun d x => { d with mirrors := x }) (some s.mirrors) ?_
          (foldlM_cons_of_ok (fun d x => { d with servers := x }) (some s.servers) ?_
            (foldlM_field_of_ok (fun d x => { d with proxies := x })
              (some (s.proxies.map SettingsProxy.redacted)) ?_))))) ?_
  all_goals simp [entryStep, setOnce, readPath, Settings.redacted, Except.map, bind, Except.bind]

/-! ## Build files -/

theorem policyNode_written (x : RepositoryPolicy) : (policyNode x).Written := by
  refine .fields _ fun kv hkv => ?_
  simp only [List.mem_append, List.mem_singleton, mem_optField] at hkv
  rcases hkv with (rfl | ⟨u, -, rfl⟩) | ⟨c, -, rfl⟩
  · exact .bool _
  · exact .str _
  · exact .str _

theorem authenticationNode_written (a : Authentication) : (authenticationNode a).Written := by
  refine .fields _ fun kv hkv => ?_
  simp only [List.mem_append, mem_optField] at hkv
  rcases hkv with ⟨s, -, rfl⟩ | ⟨s, -, rfl⟩
  · exact .str _
  · exact .str _

/-- The fields of a written remote configuration are its fields, written as readers gather
them. -/
theorem mem_remoteFields {c : RemoteConfig} {kv : String × Node} (h : kv ∈ remoteFields c) :
    kv.1 ∈ remoteKeys ∧ kv.2.Written := by
  simp only [remoteFields, ite_nil_eq_optField, List.mem_append, List.mem_singleton,
    mem_optField] at h
  rcases h with ((((((⟨s, -, rfl⟩ | rfl) | ⟨s, -, rfl⟩) | ⟨x, -, rfl⟩) | ⟨x, -, rfl⟩) |
    ⟨a, -, rfl⟩) | ⟨x, -, rfl⟩) | ⟨s, -, rfl⟩
  · exact ⟨by simp [remoteKeys], .str _⟩
  · exact ⟨by simp [remoteKeys], .str _⟩
  · exact ⟨by simp [remoteKeys], .str _⟩
  · exact ⟨by simp [remoteKeys], policyNode_written x⟩
  · exact ⟨by simp [remoteKeys], policyNode_written x⟩
  · exact ⟨by simp [remoteKeys], authenticationNode_written a⟩
  · exact ⟨by simp [remoteKeys], .fields _ fun kv hkv => (mem_proxyFields hkv).2⟩
  · exact ⟨by simp [remoteKeys], .str _⟩

/-- A named definition reads its `name` in place and its configuration from the other
fields, gathered as they were written. -/
theorem readNamedRepo_ofFields {name : String} {fs : List (String × Node)} {repo : RemoteConfig}
    (hfields : ∀ kv ∈ fs, kv.1 ∈ remoteKeys ∧ kv.2.Written)
    (hrepo : readRemote r.gathered p (.ofFields fs) = .ok repo) :
    readNamedRepo r p (.ofFields ([("name", textNode name)] ++ fs)) = .ok { name, repo } := by
  unfold readNamedRepo
  simp only [List.singleton_append]
  let gathered : List (String × Node) → NamedDraft := fun fs =>
    { name := some name, rest := fs.map fun kv => (.ofString kv.1, kv.2) }
  refine Reader.record_ofFields_of_ok r p
    (foldlM_cons_of_ok (fun d x => { d with name := x }) (some name) ?_
      (foldlM_eq_of_step_snoc gathered ?_ [])) ?_
  · simp [entryStep, setOnce, Except.map, bind, Except.bind]
  · -- every other field is a configuration field, gathered as it was written
    intro pre kv hkv
    obtain ⟨hkey, hwritten⟩ := hfields kv hkv
    obtain ⟨k, v⟩ := kv
    simp only [entryStep]
    split
    · simp [remoteKeys] at hkey
    · simp [gatherEntry_of_written r hwritten, gathered, bind, Except.bind]
  · have htake := takeFields_of_forall_mem fun kv hkv => (hfields kv hkv).1
    simp only [Node.ofFields] at hrepo
    simp [gathered, htake, hrepo, required, bind, Except.bind]

theorem readNamedRepo_namedRepoNode (x : NamedRepo) :
    readNamedRepo r p (namedRepoNode x) = .ok x.redacted :=
  readNamedRepo_ofFields r p (fun _ hkv => mem_remoteFields hkv)
    (readRemote_remoteNode r.gathered p x.repo)

@[simp] theorem list_readNamedRepo_namedRepoNode (xs : List NamedRepo) :
    r.list (readNamedRepo r) p (.ofList (xs.map namedRepoNode)) = .ok (xs.map NamedRepo.redacted) :=
  Reader.list_ofList r p (readNamedRepo_namedRepoNode r) xs

@[simp] theorem list_readRemote_remoteNode (cs : List RemoteConfig) :
    r.list (readRemote r) p (.ofList (cs.map remoteNode)) = .ok (cs.map RemoteConfig.redacted) :=
  Reader.list_ofList r p (readRemote_remoteNode r) cs

@[simp] theorem list_readProjectRepo_projectRepoNode (xs : List ProjectRepo) :
    r.list (readProjectRepo r) p (.ofList (xs.map projectRepoNode)) = .ok xs := by
  simpa using Reader.list_ofList r p (readProjectRepo_projectRepoNode r) xs

@[simp] theorem readProject_repositories (xs : List ProjectRepo) :
    readProject r p (.ofFields [("repositories", .ofList (xs.map projectRepoNode))]) = .ok xs := by
  unfold readProject
  refine Reader.record_ofFields_of_ok r p (foldlM_field_of_ok (fun _ x => x) (some xs) ?_) ?_
  all_goals simp [entryStep, setOnce, Except.map]

theorem readBuild_buildNode (b : BuildFile) : readBuild r p (buildNode b) = .ok b.redacted := by
  unfold readBuild buildNode
  simp only [List.append_assoc]
  refine Reader.record_ofFields_of_ok r p
    (foldlM_append_of_ok
      (foldlM_optField_of_ok (fun d x => { d with settings := x }) some (by rfl) fun s => ?_)
      (foldlM_append_of_ok
        (foldlM_optField_of_ok (fun d x => { d with globalSettings := x }) some (by rfl)
          fun s => ?_)
        (foldlM_append_of_ok
          (foldlM_optField_of_ok (fun d x => { d with localRepository := x }) some (by rfl)
            fun s => ?_)
          (foldlM_cons_of_ok (fun d x => { d with references := x })
            (some (b.references.map NamedRepo.redacted)) ?_
            (foldlM_cons_of_ok (fun d x => { d with repositories := x })
              (some (b.repositories.map RemoteConfig.redacted)) ?_
              (foldlM_field_of_ok (fun d x => { d with project := x }) (some b.project)
                ?_)))))) ?_
  all_goals simp [entryStep, setOnce, readPath, BuildFile.redacted, Except.map, bind, Except.bind]

/-! ## Every written value -/

/-- Every value written as a document reads back, by any reader, as itself without its
secrets, and every policy word written reads back as its policy. -/
theorem read_written_eq_redacted (r : Reader) (p : Path) :
    (∀ x, readPolicy r p (policyNode x) = .ok x) ∧
    (∀ x, readEffective r p (effectiveNode x) = .ok x) ∧
    (∀ a, readAuthentication r p (authenticationNode a) = .ok a.redacted) ∧
    (∀ x, readProxy r p (proxyNode x) = .ok x.redacted) ∧
    (∀ c, readRemote r p (remoteNode c) = .ok c.redacted) ∧
    (∀ x, readProjectRepo r p (projectRepoNode x) = .ok x) ∧
    (∀ m, readMirror r p (mirrorNode m) = .ok m) ∧
    (∀ x, readServer r p (serverNode x) = .ok x) ∧
    (∀ x, readSettingsProxy r p (settingsProxyNode x) = .ok x.redacted) ∧
    (∀ s, readSettings r p (settingsNode s) = .ok s.redacted) ∧
    (∀ b, readBuild r p (buildNode b) = .ok b.redacted) ∧
    (∀ u : UpdatePolicy, UpdatePolicy.parse? u.render = some u) ∧
    (∀ c : ChecksumPolicy, ChecksumPolicy.parse? c.render = some c) :=
  ⟨readPolicy_policyNode r p, readEffective_effectiveNode r p,
    readAuthentication_authenticationNode r p, readProxy_proxyNode r p, readRemote_remoteNode r p,
    readProjectRepo_projectRepoNode r p, readMirror_mirrorNode r p, readServer_serverNode r p,
    readSettingsProxy_settingsProxyNode r p, readSettings_settingsNode r p,
    readBuild_buildNode r p, UpdatePolicy.parse?_render, ChecksumPolicy.parse?_render⟩

end Codec

end RepoRouting
