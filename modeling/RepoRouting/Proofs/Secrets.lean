import RepoRouting.Codec.Session
import RepoRouting.Doc.Json
import RepoRouting.Proofs.RoundTrip
/-!
# Secrets stay out of written documents

A written session, collected repository, remote configuration or build file has no mapping key
`password` or `passphrase` at any depth (`written_repositories_hold_no_secrets`), whatever
credentials and proxies it holds: a document is `SecretFree` when no key among `secretKeys`
stands anywhere in it (`Node.HasKey`), and each writer is shown so from the fields it writes
(`FieldsSecretFree`), the writers it calls and the sequences it builds. The username and private
key of credentials and the username of a proxy are still written, and each repository's
credentials stand where a reader looks for them (`sessionNode_at_authentication`,
`buildNode_at_authentication`). What is written does not depend on the secrets at all: a value
is written as it would be with every password and passphrase erased (`sessionNode_redacted`).

A key is named as the JSON text writes it (`keyText_eq_jsonString`), and a path is followed from
the root through keys and indices (`Node.at?`), the first entry of a key counting.
-/

namespace RepoRouting.Doc

/-- The name a mapping key is written under: a string as it reads, another scalar as its JSON
text. A key that is no scalar is written as the empty string. -/
def Node.keyName : Node → String
  | .scalar (.str s) _ => s
  | .scalar (.text s _ _) _ => s
  | .scalar s _ => s.jsonText
  | _ => ""

/-- A key is written as the JSON string of its name. -/
theorem keyText_eq_jsonString (k : Node) : keyText k = jsonString k.keyName := by
  cases k with
  | scalar s m => cases s <;> rfl
  | _ => rfl

@[simp] theorem Node.keyName_ofString (s : String) : (Node.ofString s).keyName = s := rfl

/-- A document has, at some depth, a mapping key written under `name`. -/
inductive Node.HasKey (name : String) : Node → Prop
  | key {entries : List (Node × Node)} {tag : Option String} {mark : Mark} {closed : Bool}
      {k v : Node} : (k, v) ∈ entries → k.keyName = name →
      Node.HasKey name (.map entries tag mark closed)
  | value {entries : List (Node × Node)} {tag : Option String} {mark : Mark} {closed : Bool}
      {k v : Node} : (k, v) ∈ entries → Node.HasKey name v →
      Node.HasKey name (.map entries tag mark closed)
  | item {items : List Node} {tag : Option String} {mark : Mark} {closed : Bool} {v : Node} :
      v ∈ items → Node.HasKey name v → Node.HasKey name (.seq items tag mark closed)

/-- The value of a mapping under a key: that of its first entry whose key is written so. -/
def Node.field? (k : String) : Node → Option Node
  | .map entries _ _ _ => (entries.find? (·.1.keyName == k)).map (·.2)
  | _ => none

/-- The item of a sequence at an index, counted from zero. -/
def Node.item? (i : Nat) : Node → Option Node
  | .seq items _ _ _ => items[i]?
  | _ => none

/-- The node a path leads to from the root of a document. -/
def Node.at? (n : Node) : Path → Option Node
  | .root => some n
  | .index p i => (n.at? p).bind (Node.item? i)
  | .key p k => (n.at? p).bind (Node.field? k)
  | .unknown _ => none

namespace Node

variable {name : String}

@[simp] theorem field?_ofFields (k : String) (fs : List (String × Node)) :
    (Node.ofFields fs).field? k = (fs.find? (·.1 == k)).map (·.2) := by
  simp [Node.ofFields, field?, List.find?_map, Function.comp_def]

@[simp] theorem item?_ofList (i : Nat) (items : List Node) :
    (Node.ofList items).item? i = items[i]? :=
  rfl

theorem not_hasKey_scalar (s : Scalar) (m : Mark) : ¬ (Node.scalar s m).HasKey name := by
  rintro ⟨⟩

theorem hasKey_ofFields_iff (fs : List (String × Node)) :
    (Node.ofFields fs).HasKey name ↔ ∃ kv ∈ fs, kv.1 = name ∨ kv.2.HasKey name := by
  constructor
  · intro h
    cases h with
    | key hmem hname =>
      obtain ⟨kv, hkv, heq⟩ := List.mem_map.mp hmem
      cases heq
      exact ⟨kv, hkv, .inl hname⟩
    | value hmem hval =>
      obtain ⟨kv, hkv, heq⟩ := List.mem_map.mp hmem
      cases heq
      exact ⟨kv, hkv, .inr hval⟩
  · rintro ⟨kv, hkv, hname | hval⟩
    · exact .key (List.mem_map.mpr ⟨kv, hkv, rfl⟩) hname
    · exact .value (List.mem_map.mpr ⟨kv, hkv, rfl⟩) hval

theorem hasKey_ofList_iff (items : List Node) :
    (Node.ofList items).HasKey name ↔ ∃ n ∈ items, n.HasKey name := by
  constructor
  · intro h
    cases h with
    | item hmem hval => exact ⟨_, hmem, hval⟩
  · rintro ⟨n, hmem, hval⟩
    exact .item hmem hval

end Node

end RepoRouting.Doc

namespace RepoRouting

/-! ## Values without their secrets -/

/-- A collected repository whose credentials and proxy lost their secrets. -/
def Resolved.redacted (r : Resolved) : Resolved :=
  { r with authentication := r.authentication.map Authentication.redacted
           proxy := r.proxy.map Proxy.redacted }

/-- A session whose repositories lost their secrets. -/
def Session.redacted (s : Session) : Session :=
  { s with remotes := s.remotes.map Resolved.redacted }

end RepoRouting

namespace RepoRouting.Codec

open Doc

/-! ## Documents free of secrets -/

/-- The keys that would carry a secret: the password of credentials or a proxy, and the
passphrase of a private key. -/
def secretKeys : List String := ["password", "passphrase"]

/-- A document with no secret key at any depth. -/
def SecretFree (n : Node) : Prop := ∀ name ∈ secretKeys, ¬ n.HasKey name

theorem secretFree_scalar (s : Scalar) (m : Mark) : SecretFree (.scalar s m) :=
  fun _ _ => Node.not_hasKey_scalar s m

/-- A sequence is free of secrets when each item is. -/
theorem secretFree_ofList {items : List Node} (h : ∀ n ∈ items, SecretFree n) :
    SecretFree (.ofList items) := by
  intro name hsecret hkey
  obtain ⟨n, hn, hval⟩ := (Node.hasKey_ofList_iff items).mp hkey
  exact h n hn name hsecret hval

/-- Fields none of whose keys is secret and none of whose values holds a secret. -/
inductive FieldsSecretFree : List (String × Node) → Prop
  | nil : FieldsSecretFree []
  | cons {k : String} {v : Node} {fs : List (String × Node)} :
      k ∉ secretKeys → SecretFree v → FieldsSecretFree fs → FieldsSecretFree ((k, v) :: fs)

namespace FieldsSecretFree

variable {k : String} {fs gs : List (String × Node)}

theorem mem (h : FieldsSecretFree fs) : ∀ kv ∈ fs, kv.1 ∉ secretKeys ∧ SecretFree kv.2 := by
  induction h with
  | nil => exact fun _ hmem => absurd hmem List.not_mem_nil
  | cons hk hv _ ih =>
    intro kv hkv
    rcases List.mem_cons.mp hkv with rfl | hrest
    · exact ⟨hk, hv⟩
    · exact ih kv hrest

theorem append (hfs : FieldsSecretFree fs) (hgs : FieldsSecretFree gs) :
    FieldsSecretFree (fs ++ gs) := by
  induction hfs with
  | nil => exact hgs
  | cons hk hv _ ih => exact .cons hk hv ih

theorem optField {o : Option α} {f : α → Node} (hk : k ∉ secretKeys)
    (hf : ∀ a, SecretFree (f a)) : FieldsSecretFree (Codec.optField k o f) := by
  cases o with
  | none => exact .nil
  | some a => exact .cons hk (hf a) .nil

end FieldsSecretFree

/-- A mapping is free of secrets when none of its keys is secret and no value holds one. -/
theorem secretFree_ofFields {fs : List (String × Node)} (h : FieldsSecretFree fs) :
    SecretFree (.ofFields fs) := by
  intro name hsecret hkey
  obtain ⟨kv, hkv, hname | hval⟩ := (Node.hasKey_ofFields_iff fs).mp hkey
  · exact (h.mem kv hkv).1 (hname ▸ hsecret)
  · exact (h.mem kv hkv).2 name hsecret hval

/-! ## Written values hold no secret -/

theorem secretFree_textNode (s : String) : SecretFree (textNode s) := secretFree_scalar _ _

theorem secretFree_policyNode (x : RepositoryPolicy) : SecretFree (policyNode x) :=
  secretFree_ofFields (.append (.append (.cons (by simp [secretKeys]) (secretFree_scalar _ _) .nil)
    (.optField (by simp [secretKeys]) fun _ => secretFree_textNode _))
    (.optField (by simp [secretKeys]) fun _ => secretFree_textNode _))

theorem secretFree_effectiveNode (x : EffectivePolicy) : SecretFree (effectiveNode x) :=
  secretFree_ofFields (.cons (by simp [secretKeys]) (secretFree_scalar _ _)
    (.cons (by simp [secretKeys]) (secretFree_textNode _)
      (.cons (by simp [secretKeys]) (secretFree_textNode _) .nil)))

/-- Credentials are written without their password and passphrase. -/
theorem secretFree_authenticationNode (a : Authentication) : SecretFree (authenticationNode a) :=
  secretFree_ofFields (.append (.optField (by simp [secretKeys]) secretFree_textNode)
    (.optField (by simp [secretKeys]) secretFree_textNode))

/-- A proxy is written without its password. -/
theorem secretFree_proxyNode (x : Proxy) : SecretFree (proxyNode x) :=
  secretFree_ofFields (.append (.append
    (.cons (by simp [secretKeys]) (secretFree_textNode _)
      (.cons (by simp [secretKeys]) (secretFree_textNode _)
        (.cons (by simp [secretKeys]) (secretFree_scalar _ _) .nil)))
    (.optField (by simp [secretKeys]) secretFree_textNode))
    (.optField (by simp [secretKeys]) secretFree_textNode))

/-- Each item written by `f` is free of secrets, so the sequence is. -/
theorem secretFree_ofList_map {xs : List α} {f : α → Node} (hf : ∀ a, SecretFree (f a)) :
    SecretFree (.ofList (xs.map f)) :=
  secretFree_ofList fun n hn => by
    obtain ⟨a, -, rfl⟩ := List.mem_map.mp hn
    exact hf a

theorem secretFree_originNode (o : Origin) : SecretFree (originNode o) :=
  secretFree_ofFields (.cons (by simp [secretKeys]) (secretFree_textNode _)
    (.cons (by simp [secretKeys]) (secretFree_textNode _) .nil))

theorem secretFree_localRepoNode (x : LocalRepo) : SecretFree (localRepoNode x) :=
  secretFree_ofFields (.cons (by simp [secretKeys]) (secretFree_textNode _)
    (.cons (by simp [secretKeys]) (secretFree_textNode _) .nil))

theorem fieldsSecretFree_remoteFields (c : RemoteConfig) : FieldsSecretFree (remoteFields c) := by
  have hlayout : FieldsSecretFree
      (if c.layout == defaultLayout then [] else [("layout", textNode c.layout)]) := by
    split
    · exact .nil
    · exact .cons (by simp [secretKeys]) (secretFree_textNode _) .nil
  exact .append (.append (.append (.append (.append (.append (.append
    (.optField (by simp [secretKeys]) secretFree_textNode)
    (.cons (by simp [secretKeys]) (secretFree_textNode _) .nil)) hlayout)
    (.optField (by simp [secretKeys]) secretFree_policyNode))
    (.optField (by simp [secretKeys]) secretFree_policyNode))
    (.optField (by simp [secretKeys]) secretFree_authenticationNode))
    (.optField (by simp [secretKeys]) secretFree_proxyNode))
    (.optField (by simp [secretKeys]) secretFree_textNode)

theorem secretFree_remoteNode (c : RemoteConfig) : SecretFree (remoteNode c) :=
  secretFree_ofFields (fieldsSecretFree_remoteFields c)

theorem secretFree_projectRepoNode (x : ProjectRepo) : SecretFree (projectRepoNode x) :=
  secretFree_ofFields (.append (.append (.append (.append
    (.optField (by simp [secretKeys]) secretFree_textNode)
    (.optField (by simp [secretKeys]) secretFree_textNode))
    (.cons (by simp [secretKeys]) (secretFree_textNode _)
      (.cons (by simp [secretKeys]) (secretFree_textNode _) .nil)))
    (.optField (by simp [secretKeys]) secretFree_policyNode))
    (.optField (by simp [secretKeys]) secretFree_policyNode))

/-- A named definition is written as its name beside its configuration's fields, which are
flattened into the same mapping. -/
theorem secretFree_namedRepoNode (x : NamedRepo) : SecretFree (namedRepoNode x) :=
  secretFree_ofFields (.append (.cons (by simp [secretKeys]) (secretFree_textNode _) .nil)
    (fieldsSecretFree_remoteFields x.repo))

theorem secretFree_resolvedNode (r : Resolved) : SecretFree (resolvedNode r) :=
  secretFree_ofFields (.append (.append (.append
    (.cons (by simp [secretKeys]) (secretFree_textNode _)
      (.cons (by simp [secretKeys]) (secretFree_textNode _)
        (.cons (by simp [secretKeys]) (secretFree_textNode _)
          (.cons (by simp [secretKeys]) (secretFree_effectiveNode _)
            (.cons (by simp [secretKeys]) (secretFree_effectiveNode _) .nil)))))
    (.optField (by simp [secretKeys]) secretFree_authenticationNode))
    (.optField (by simp [secretKeys]) secretFree_proxyNode))
    (.optField (by simp [secretKeys]) secretFree_originNode))

theorem secretFree_sessionNode (s : Session) : SecretFree (sessionNode s) :=
  secretFree_ofFields (.cons (by simp [secretKeys]) (secretFree_localRepoNode _)
    (.cons (by simp [secretKeys]) (secretFree_ofList_map secretFree_resolvedNode)
      (.cons (by simp [secretKeys]) (secretFree_scalar _ _) .nil)))

theorem secretFree_buildNode (b : BuildFile) : SecretFree (buildNode b) :=
  secretFree_ofFields (.append (.append (.append
    (.optField (by simp [secretKeys]) secretFree_textNode)
    (.optField (by simp [secretKeys]) secretFree_textNode))
    (.optField (by simp [secretKeys]) secretFree_textNode))
    (.cons (by simp [secretKeys]) (secretFree_ofList_map secretFree_namedRepoNode)
      (.cons (by simp [secretKeys]) (secretFree_ofList_map secretFree_remoteNode)
        (.cons (by simp [secretKeys])
          (secretFree_ofFields (.cons (by simp [secretKeys])
            (secretFree_ofList_map secretFree_projectRepoNode) .nil)) .nil))))

/-! ## What is still written -/

/-- Looking a key up among an optional field: found only under the field's own key, when the
value is present. -/
@[simp] theorem find?_optField (k key : String) (o : Option α) (f : α → Node) :
    (optField key o f).find? (·.1 == k) = if key = k then o.map fun a => (key, f a) else none := by
  cases o <;> by_cases hk : key = k <;> simp [optField, hk]

/-- The username and private key of credentials are written under their own keys. -/
theorem authenticationNode_at (a : Authentication) :
    (authenticationNode a).at? (.key .root "username") = a.username.map .ofString ∧
      (authenticationNode a).at? (.key .root "privateKey") = a.privateKey.map .ofString := by
  constructor <;> simp [authenticationNode, Node.at?, List.find?_append, Function.comp_def]

/-- The credentials among a configuration's written fields. -/
theorem find?_authentication_remoteFields (c : RemoteConfig) :
    (remoteFields c).find? (·.1 == "authentication") =
      c.authentication.map fun a => ("authentication", authenticationNode a) := by
  -- the layout is written or not, and is in either case no authentication
  by_cases hlayout : c.layout = defaultLayout <;>
    simp [remoteFields, hlayout, List.find?_append]

theorem field?_authentication_remoteNode (c : RemoteConfig) :
    (remoteNode c).field? "authentication" = c.authentication.map authenticationNode := by
  simp [remoteNode, find?_authentication_remoteFields, Function.comp_def]

theorem field?_authentication_namedRepoNode (x : NamedRepo) :
    (namedRepoNode x).field? "authentication" = x.repo.authentication.map authenticationNode := by
  simp [namedRepoNode, find?_authentication_remoteFields, Function.comp_def]

theorem field?_authentication_resolvedNode (r : Resolved) :
    (resolvedNode r).field? "authentication" = r.authentication.map authenticationNode := by
  simp [resolvedNode, List.find?_append, Function.comp_def]

/-- In a written session, the credentials of the `i`-th repository stand under
`remotes[i].authentication`. -/
theorem sessionNode_at_authentication (s : Session) (i : Nat) :
    (sessionNode s).at? (.key (.index (.key .root "remotes") i) "authentication") =
      (s.remotes[i]?.bind (·.authentication)).map authenticationNode := by
  simp only [Node.at?, sessionNode, Option.bind_some, Node.field?_ofFields]
  cases hr : s.remotes[i]? <;> simp [hr, field?_authentication_resolvedNode]

/-- A proxy's username is written under its own key. -/
theorem proxyNode_at_username (x : Proxy) :
    (proxyNode x).at? (.key .root "username") = x.username.map .ofString := by
  simp [proxyNode, proxyFields, Node.at?, List.find?_append, Function.comp_def]

/-- In a written build file, the credentials of the `i`-th configured repository stand under
`repositories[i].authentication`, and those of the `i`-th named definition under
`references[i].authentication`, beside its name. -/
theorem buildNode_at_authentication (b : BuildFile) (i : Nat) :
    (buildNode b).at? (.key (.index (.key .root "repositories") i) "authentication") =
        (b.repositories[i]?.bind (·.authentication)).map authenticationNode ∧
      (buildNode b).at? (.key (.index (.key .root "references") i) "authentication") =
        (b.references[i]?.bind (·.repo.authentication)).map authenticationNode := by
  simp only [Node.at?, buildNode, Option.bind_some, Node.field?_ofFields]
  constructor
  · cases hc : b.repositories[i]? <;>
      simp [hc, List.find?_append, field?_authentication_remoteNode]
  · cases hx : b.references[i]? <;>
      simp [hx, List.find?_append, field?_authentication_namedRepoNode]

/-! ## Written values do not depend on their secrets -/

theorem optField_map (key : String) (o : Option α) (g : α → β) (f : β → Node) :
    optField key (o.map g) f = optField key o (f ∘ g) := by
  cases o <;> rfl

theorem remoteFields_redacted (c : RemoteConfig) : remoteFields c.redacted = remoteFields c := by
  simp only [remoteFields, RemoteConfig.redacted, optField_map]
  rfl

theorem remoteNode_redacted (c : RemoteConfig) : remoteNode c.redacted = remoteNode c := by
  rw [remoteNode, remoteFields_redacted, remoteNode]

theorem resolvedNode_redacted (r : Resolved) : resolvedNode r.redacted = resolvedNode r := by
  simp only [resolvedNode, Resolved.redacted, optField_map]
  rfl

theorem sessionNode_redacted (s : Session) : sessionNode s.redacted = sessionNode s := by
  simp only [sessionNode, Session.redacted, List.map_map, Function.comp_def, resolvedNode_redacted]

theorem namedRepoNode_redacted (x : NamedRepo) : namedRepoNode x.redacted = namedRepoNode x := by
  simp only [namedRepoNode, NamedRepo.redacted, remoteFields_redacted]

theorem buildNode_redacted (b : BuildFile) : buildNode b.redacted = buildNode b := by
  simp only [buildNode, BuildFile.redacted, List.map_map, Function.comp_def,
    namedRepoNode_redacted, remoteNode_redacted]

/-- A document free of secrets has no `password` and no `passphrase` key. -/
theorem not_hasKey_password_of_secretFree {n : Node} (h : SecretFree n) :
    ¬ n.HasKey "password" ∧ ¬ n.HasKey "passphrase" :=
  ⟨h "password" (by simp [secretKeys]), h "passphrase" (by simp [secretKeys])⟩

theorem written_repositories_hold_no_secrets :
    (∀ s : Session, ¬ (sessionNode s).HasKey "password" ∧
      ¬ (sessionNode s).HasKey "passphrase") ∧
    (∀ r : Resolved, ¬ (resolvedNode r).HasKey "password" ∧
      ¬ (resolvedNode r).HasKey "passphrase") ∧
    (∀ c : RemoteConfig, ¬ (remoteNode c).HasKey "password" ∧
      ¬ (remoteNode c).HasKey "passphrase") ∧
    (∀ b : BuildFile, ¬ (buildNode b).HasKey "password" ∧
      ¬ (buildNode b).HasKey "passphrase") ∧
    (∀ a : Authentication,
      (authenticationNode a).at? (.key .root "username") = a.username.map .ofString ∧
        (authenticationNode a).at? (.key .root "privateKey") = a.privateKey.map .ofString) ∧
    (∀ x : Proxy, (proxyNode x).at? (.key .root "username") = x.username.map .ofString) ∧
    (∀ (s : Session) (i : Nat),
      (sessionNode s).at? (.key (.index (.key .root "remotes") i) "authentication") =
        (s.remotes[i]?.bind (·.authentication)).map authenticationNode) ∧
    (∀ r : Resolved, (resolvedNode r).at? (.key .root "authentication") =
      r.authentication.map authenticationNode) ∧
    (∀ c : RemoteConfig, (remoteNode c).at? (.key .root "authentication") =
      c.authentication.map authenticationNode) ∧
    (∀ (b : BuildFile) (i : Nat),
      (buildNode b).at? (.key (.index (.key .root "repositories") i) "authentication") =
          (b.repositories[i]?.bind (·.authentication)).map authenticationNode ∧
        (buildNode b).at? (.key (.index (.key .root "references") i) "authentication") =
          (b.references[i]?.bind (·.repo.authentication)).map authenticationNode) ∧
    (∀ s : Session, sessionNode s.redacted = sessionNode s) ∧
    (∀ r : Resolved, resolvedNode r.redacted = resolvedNode r) ∧
    (∀ c : RemoteConfig, remoteNode c.redacted = remoteNode c) ∧
    (∀ b : BuildFile, buildNode b.redacted = buildNode b) :=
  ⟨fun s => not_hasKey_password_of_secretFree (secretFree_sessionNode s),
    fun r => not_hasKey_password_of_secretFree (secretFree_resolvedNode r),
    fun c => not_hasKey_password_of_secretFree (secretFree_remoteNode c),
    fun b => not_hasKey_password_of_secretFree (secretFree_buildNode b),
    authenticationNode_at, proxyNode_at_username, sessionNode_at_authentication,
    field?_authentication_resolvedNode, field?_authentication_remoteNode,
    buildNode_at_authentication, sessionNode_redacted, resolvedNode_redacted,
    remoteNode_redacted, buildNode_redacted⟩

end RepoRouting.Codec
