import RepoRouting.Proofs.FirstByKey
import RepoRouting.Proofs.Prepare

/-!
# What a successful collection returns

A collection that succeeds has prepared every entry as the definition it stands for. From
those definitions it keeps the first of each settled id, puts each kept one behind its
mirror, keeps the first of each id the mirrors hand out, and attaches credentials and a
proxy (`collect_eq_ok_iff`). So:

* `collect_keeps_first_served`: the ids returned are pairwise distinct, they are the
  served ids of the first entries of each settled id with repeats erased, and each
  repository comes from the earliest of those entries served under its id;
* `collect_ok_mem_spec`: each repository returned carries its mirror's identity or its
  own, its normalised layout and policies, its own credentials or those stored for the id
  it is served under, and its own proxy or the active one.
-/

namespace RepoRouting

namespace Collector

variable (k : Collector)

/-- The id a definition is served under: its mirror's id, else its settled id. -/
def servedId (d : RemoteConfig) : String :=
  match findMirror (k.settleId d) d.url k.settings.mirrors with
  | some (m, _) => m.id
  | none => k.settleId d

/-- The repository a definition becomes: settled, behind its mirror, with credentials and
a proxy attached. -/
def collected (d : RemoteConfig) : Resolved :=
  k.attach (k.applyMirror (toResolved (k.settled d)))

/-- The definitions that no earlier definition shares a settled id with, in order. -/
def firstSettled (ds : List RemoteConfig) : List RemoteConfig :=
  ds.eraseDupsBy fun a b => k.settleId a == k.settleId b

/-! ## One definition -/

section Mirror

variable (r : Resolved)

/-! A mirror replaces the identity of a repository and nothing else. -/

@[simp] theorem layout_applyMirror : (k.applyMirror r).layout = r.layout := by
  unfold applyMirror; split <;> rfl

@[simp] theorem releases_applyMirror : (k.applyMirror r).releases = r.releases := by
  unfold applyMirror; split <;> rfl

@[simp] theorem snapshots_applyMirror : (k.applyMirror r).snapshots = r.snapshots := by
  unfold applyMirror; split <;> rfl

@[simp] theorem authentication_applyMirror :
    (k.applyMirror r).authentication = r.authentication := by
  unfold applyMirror; split <;> rfl

@[simp] theorem proxy_applyMirror : (k.applyMirror r).proxy = r.proxy := by
  unfold applyMirror; split <;> rfl

end Mirror

theorem id_applyMirror_settled (d : RemoteConfig) :
    (k.applyMirror (toResolved (k.settled d))).id = k.servedId d := by
  rcases h : findMirror (k.settleId d) d.url k.settings.mirrors with _ | ⟨m, i⟩ <;>
    simp [applyMirror, servedId, toResolved, settled, h]

@[simp] theorem id_collected (d : RemoteConfig) : (k.collected d).id = k.servedId d :=
  id_applyMirror_settled k d

/-- A definition's identity after collection: its mirror's, with the settled id and url
kept as its origin, or its own. -/
theorem identity_collected (d : RemoteConfig) :
    match findMirror (k.settleId d) d.url k.settings.mirrors with
    | some (m, _) => (k.collected d).id = m.id ∧ (k.collected d).url = m.url ∧
        (k.collected d).mirroredFrom = some ⟨k.settleId d, d.url⟩
    | none => (k.collected d).id = k.settleId d ∧ (k.collected d).url = d.url ∧
        (k.collected d).mirroredFrom = none := by
  rcases h : findMirror (k.settleId d) d.url k.settings.mirrors with _ | ⟨m, i⟩ <;>
    simp [collected, attach, applyMirror, toResolved, settled, h]

@[simp] theorem layout_collected (d : RemoteConfig) :
    (k.collected d).layout = settleLayout d.layout := by
  simp [collected, attach, toResolved, settled]

@[simp] theorem releases_collected (d : RemoteConfig) :
    (k.collected d).releases = EffectivePolicy.ofConfig d.releases := by
  simp [collected, attach, toResolved, settled]

@[simp] theorem snapshots_collected (d : RemoteConfig) :
    (k.collected d).snapshots = EffectivePolicy.ofConfig d.snapshots := by
  simp [collected, attach, toResolved, settled]

/-- Credentials: the definition's own, else those stored under the id it is served under. -/
theorem authentication_collected (d : RemoteConfig) :
    (k.collected d).authentication =
      d.authentication.or ((k.settings.server? (k.servedId d)).map k.credentialsOf) := by
  rw [← id_collected]
  simp [collected, attach, toResolved, settled]

/-- The proxy: the definition's own, else the active one. -/
theorem proxy_collected (d : RemoteConfig) :
    (k.collected d).proxy = d.proxy.or k.settings.activeProxy? := by
  simp [collected, attach, toResolved, settled]

/-- A collection succeeds exactly when every entry is prepared, and it returns the
definitions first by settled id, then first by served id, each as it is collected. -/
theorem collect_eq_ok_iff {configured declared : List RemoteConfig} {out : List Resolved} :
    k.collect configured declared = .ok out ↔
      ∃ ds, List.Forall₂ (fun c d => k.StandsFor c d ∧ Admits d)
          (entries configured declared) ds ∧
        out = (firstByKey k.servedId [] (firstByKey k.settleId [] ds)).map k.collected := by
  have hrun : ∀ ds : List RemoteConfig,
      (firstByKey Resolved.id []
          ((firstByKey Prepared.id [] (ds.map k.settled)).map (k.applyMirror ∘ toResolved))).map
        k.attach =
      (firstByKey k.servedId [] (firstByKey k.settleId [] ds)).map k.collected := by
    intro ds
    -- each pass keeps by a key read through the maps around it
    have hsettled : Prepared.id ∘ k.settled = k.settleId := rfl
    have hserved : Resolved.id ∘ ((k.applyMirror ∘ toResolved) ∘ k.settled) = k.servedId :=
      funext (id_applyMirror_settled k)
    rw [firstByKey_map Prepared.id k.settled, hsettled, List.map_map,
      firstByKey_map Resolved.id, hserved, List.map_map]
    rfl
  unfold collect
  cases hp : k.prepareFrom 1 (entries configured declared) with
  | error e =>
    simp only [bind, Except.bind, reduceCtorEq, false_iff, not_exists, not_and]
    intro ds hds
    rw [(prepareFrom_eq_ok_iff k).mpr ⟨ds, hds, rfl⟩] at hp
    cases hp
  | ok ps =>
    obtain ⟨ds, hds, rfl⟩ := (prepareFrom_eq_ok_iff k).mp hp
    simp only [bind, Except.bind, Except.ok.injEq, hrun]
    constructor
    · rintro rfl
      exact ⟨ds, hds, rfl⟩
    · rintro ⟨ds', hds', rfl⟩
      -- every entry stands for one definition, so both lists of definitions agree
      have heq : ds = ds' := List.right_unique_forall₂'
        (fun _ _ _ h h' => StandsFor.unique k h.1 h'.1) hds hds'
      rw [heq]

/-! ## The repositories returned -/

section Output

variable {configured declared : List RemoteConfig} {out : List Resolved}

/-- Something related to each member of the right list stands in the left list. -/
private theorem Forall₂.exists_of_mem_right {R : α → β → Prop} {l₁ : List α} {l₂ : List β}
    (h : List.Forall₂ R l₁ l₂) {b : β} (hb : b ∈ l₂) : ∃ a ∈ l₁, R a b := by
  induction h with
  | nil => simp at hb
  | cons hab _ ih =>
    rcases List.mem_cons.mp hb with rfl | hb
    · exact ⟨_, List.mem_cons_self, hab⟩
    · obtain ⟨a, ha, hr⟩ := ih hb
      exact ⟨a, List.mem_cons_of_mem _ ha, hr⟩

/-- The ids a collection returns are pairwise distinct; they are the served ids of the first
definitions of each settled id, each once, in the order they first appear; and each
repository is collected from the earliest of those definitions served under its id. -/
theorem collect_keeps_first_served (h : k.collect configured declared = .ok out) :
    ∃ ds, List.Forall₂ k.StandsFor (entries configured declared) ds ∧
      (out.map (·.id)).Nodup ∧
      out.map (·.id) = ((k.firstSettled ds).map k.servedId).eraseDups ∧
      ∀ r ∈ out, ∃ d, (k.firstSettled ds).find? (fun d => k.servedId d == r.id) = some d ∧
        r = k.collected d := by
  obtain ⟨ds, hds, rfl⟩ := (collect_eq_ok_iff k).mp h
  have hfirst : firstByKey k.settleId [] ds = k.firstSettled ds :=
    firstByKey_eq_eraseDupsBy k.settleId ds
  have hids : (·.id) ∘ k.collected = k.servedId := funext (id_collected k)
  refine ⟨ds, hds.imp fun _ _ h => h.1, ?_, ?_, ?_⟩
  · rw [List.map_map, hids]
    exact nodup_map_key_firstByKey k.servedId [] _
  · rw [List.map_map, hids, map_key_firstByKey_nil, hfirst]
  · intro r hr
    obtain ⟨d, hd, rfl⟩ := List.mem_map.mp hr
    refine ⟨d, ?_, rfl⟩
    rw [← hfirst, id_collected]
    exact find?_of_mem_firstByKey k.servedId hd

/-- Settings under which `a` and `b` are both served by the mirror `m`, whose stored
password is encrypted. -/
def collapsing : Collector :=
  { settings :=
      { mirrors := [{ id := "m", url := "http://m", mirrorOf := "a" },
          { id := "m", url := "http://m2", mirrorOf := "b" }]
        servers := [{ id := "m", username := some "u", password := some "{x}" }] } }

/-- The configured `a` behind `m`, with `m`'s credentials; the password stays as stored,
since the plain decryptor refuses an encrypted one. -/
def collapsedA : Resolved :=
  { id := "m", url := "http://m", layout := "default"
    releases := ⟨true, .daily, .warn⟩, snapshots := ⟨true, .daily, .warn⟩
    authentication := some { username := some "u", password := some "{x}" }
    mirroredFrom := some ⟨"a", "http://a"⟩ }

/-- `a` configured, `b` configured and `a` declared again collapse into the configured `a`
behind `m`. -/
theorem collect_keeps_first_served_collapsing :
    collapsing.collect [.withId "a" "http://a", .withId "b" "http://b"]
        [.withId "a" "http://other"] = .ok [collapsedA] ∧
    ∃ ds, List.Forall₂ collapsing.StandsFor
        (entries [.withId "a" "http://a", .withId "b" "http://b"] [.withId "a" "http://other"])
        ds ∧
      ["m"].Nodup ∧ ["m"] = ((collapsing.firstSettled ds).map collapsing.servedId).eraseDups ∧
      ∃ d, (collapsing.firstSettled ds).find? (fun d => collapsing.servedId d == "m") = some d ∧
        collapsedA = collapsing.collected d := by
  have h : collapsing.collect [.withId "a" "http://a", .withId "b" "http://b"]
      [.withId "a" "http://other"] = .ok [collapsedA] := by
    with_unfolding_all rfl
  obtain ⟨ds, hds, hnodup, hids, hfrom⟩ := collect_keeps_first_served collapsing h
  exact ⟨h, ds, hds, hnodup, hids, hfrom _ List.mem_cons_self⟩

/-- Each repository a collection returns comes from an entry, through the definition it
stands for: it carries its mirror's identity or its own, the definition's layout trimmed
(`default` when blank, and known), its policies settled, its own credentials or those
stored under the id it is served under (the password decrypted, or kept as stored when
that fails), and its own proxy or the first active one. -/
theorem collect_ok_mem_spec (h : k.collect configured declared = .ok out) {r : Resolved}
    (hr : r ∈ out) :
    ∃ c ∈ entries configured declared, ∃ d, k.StandsFor c d ∧
      (match findMirror (k.settleId d) d.url k.settings.mirrors with
        | some (m, _) => r.id = m.id ∧ r.url = m.url ∧ r.mirroredFrom = some ⟨k.settleId d, d.url⟩
        | none => r.id = k.settleId d ∧ r.url = d.url ∧ r.mirroredFrom = none) ∧
      r.layout = (if Text.trim d.layout = "" then "default" else Text.trim d.layout) ∧
      r.layout ∈ ["default", "legacy"] ∧
      r.releases = EffectivePolicy.ofConfig d.releases ∧
      r.snapshots = EffectivePolicy.ofConfig d.snapshots ∧
      (match d.authentication with
        | some a => r.authentication = some a
        | none => r.authentication = (k.settings.server? r.id).map fun s =>
            { username := s.username, privateKey := s.privateKey, passphrase := s.passphrase
              password := s.password.map fun stored =>
                match k.decryptor.decrypt stored with
                | .ok plain => plain
                | .error _ => stored }) ∧
      r.proxy = d.proxy.or ((k.settings.proxies.find? (·.active)).map (·.proxy)) := by
  obtain ⟨ds, hds, rfl⟩ := (collect_eq_ok_iff k).mp h
  obtain ⟨d, hd, rfl⟩ := List.mem_map.mp hr
  -- the repository was kept twice, so its definition is one of the prepared ones
  have hmem : d ∈ ds := (mem_firstByKey _ (mem_firstByKey _ hd).1).1
  obtain ⟨c, hc, hs, hu, hl⟩ := Forall₂.exists_of_mem_right hds hmem
  refine ⟨c, hc, d, hs, identity_collected k d, by rw [layout_collected, settleLayout_eq],
    by simpa [knownLayouts] using hl, releases_collected k d, snapshots_collected k d, ?_, ?_⟩
  · rw [authentication_collected, id_collected]
    cases d.authentication <;> rfl
  · rw [proxy_collected]
    rfl

/-- The repository of the collapsing collection comes from the configured `a`: it carries
`m`'s identity and the credentials stored under `m`. -/
theorem collect_ok_mem_spec_collapsing :
    collapsing.collect [.withId "a" "http://a", .withId "b" "http://b"]
        [.withId "a" "http://other"] = .ok [collapsedA] ∧ collapsedA ∈ [collapsedA] ∧
    ∃ c ∈ entries [.withId "a" "http://a", .withId "b" "http://b"] [.withId "a" "http://other"],
      ∃ d, collapsing.StandsFor c d ∧
      (match findMirror (collapsing.settleId d) d.url collapsing.settings.mirrors with
        | some (m, _) => collapsedA.id = m.id ∧ collapsedA.url = m.url ∧
            collapsedA.mirroredFrom = some ⟨collapsing.settleId d, d.url⟩
        | none => collapsedA.id = collapsing.settleId d ∧ collapsedA.url = d.url ∧
            collapsedA.mirroredFrom = none) ∧
      collapsedA.layout = (if Text.trim d.layout = "" then "default" else Text.trim d.layout) ∧
      collapsedA.layout ∈ ["default", "legacy"] ∧
      collapsedA.releases = EffectivePolicy.ofConfig d.releases ∧
      collapsedA.snapshots = EffectivePolicy.ofConfig d.snapshots ∧
      (match d.authentication with
        | some a => collapsedA.authentication = some a
        | none => collapsedA.authentication = (collapsing.settings.server? collapsedA.id).map
            fun s =>
            { username := s.username, privateKey := s.privateKey, passphrase := s.passphrase
              password := s.password.map fun stored =>
                match collapsing.decryptor.decrypt stored with
                | .ok plain => plain
                | .error _ => stored }) ∧
      collapsedA.proxy =
        d.proxy.or ((collapsing.settings.proxies.find? (·.active)).map (·.proxy)) := by
  have h : collapsing.collect [.withId "a" "http://a", .withId "b" "http://b"]
      [.withId "a" "http://other"] = .ok [collapsedA] := by
    with_unfolding_all rfl
  exact ⟨h, List.mem_singleton_self _, collect_ok_mem_spec collapsing h (List.mem_singleton_self _)⟩

end Output

end Collector

end RepoRouting
