import RepoRouting.Registry
/-!
# Registrations

A registry is built by registering configurations under names, one call after another, from an
empty one; a call that fails leaves the registry as it was (`registerKeep`, `ofCalls`).

A registration resolves the configuration against the registry as it stands and stores the
result under the name, in place of what the name held, leaving every other name as it was
(`get?_of_register_eq_ok`); it fails only on a reference to a name that holds nothing
(`resolve_eq_error_iff`). So no stored definition is a reference (`Flat`): registering keeps that
(`flat_of_register`), hence so does every sequence of registrations (`flat_ofCalls`), and then a
configuration resolves in one step to a definition that resolves to itself (`resolve_of_flat`).
An alias holds a copy of what its name held when it was registered, whatever that name is given
later.
-/

namespace RepoRouting.Registry

/-! ## One registration -/

/-- Resolving fails only on a reference to a name that holds nothing, and then names it. -/
theorem resolve_eq_error_iff (r : Registry) (c : RemoteConfig) (e : ConfigError) :
    r.resolve c = .error e ↔
      ∃ ref, c.refid = some ref ∧ r.get? ref = none ∧ e = .unresolvedReference ref := by
  cases href : c.refid with
  | none => simp [resolve, href]
  | some ref =>
    cases hget : r.get? ref with
    | none => simp [resolve, href, hget, eq_comm]
    | some d => simp [resolve, href, hget]

/-- A registration stores the resolved configuration in front, in place of the name's
earlier definition. -/
theorem register_eq_ok_iff (r : Registry) (name : String) (c : RemoteConfig) (r' : Registry) :
    r.register name c = .ok r' ↔
      ∃ d, r.resolve c = .ok d ∧
        r' = { entries := (name, d) :: r.entries.filter (·.1 != name) } := by
  unfold register
  cases r.resolve c <;> simp [bind, Except.bind, eq_comm]

/-- A registration fails exactly when resolving the configuration does. -/
theorem register_eq_error_iff (r : Registry) (name : String) (c : RemoteConfig) (e : ConfigError) :
    r.register name c = .error e ↔ r.resolve c = .error e := by
  unfold register
  cases r.resolve c <;> simp [bind, Except.bind]

/-- Looking a name up after a definition was stored under `name`. -/
theorem get?_store (r : Registry) (name m : String) (d : RemoteConfig) :
    get? { entries := (name, d) :: r.entries.filter (·.1 != name) } m =
      if m = name then some d else r.get? m := by
  unfold get?
  by_cases hm : m = name
  · subst hm
    simp
  · have hskip : ((name, d).1 == m) = false := beq_eq_false_iff_ne.mpr (Ne.symm hm)
    rw [if_neg hm, List.find?_cons, hskip]
    dsimp only
    rw [List.find?_filter]
    -- the entries the filter drops are named `name`, never `m`
    congr 2
    funext e
    by_cases he : e.1 = name
    · simp [he, Ne.symm hm]
    · simp [he, Bool.beq_eq_decide_eq]

/-- After a successful registration the name holds the resolved configuration and every other
name what it held before. -/
theorem get?_of_register_eq_ok {r r' : Registry} {name : String} {c : RemoteConfig}
    (h : r.register name c = .ok r') :
    ∃ d, r.resolve c = .ok d ∧ ∀ m, r'.get? m = if m = name then some d else r.get? m := by
  obtain ⟨d, hd, rfl⟩ := (register_eq_ok_iff r name c r').mp h
  exact ⟨d, hd, fun m => get?_store r name m d⟩

/-! ## Stored definitions are never references -/

/-- No stored definition is itself a reference. -/
def Flat (r : Registry) : Prop := ∀ e ∈ r.entries, e.2.refid = none

variable {r r' : Registry} {name : String} {c d : RemoteConfig}

theorem refid_of_get?_of_flat (hflat : r.Flat) {n : String} (h : r.get? n = some d) :
    d.refid = none := by
  unfold get? at h
  obtain ⟨e, he, rfl⟩ := Option.map_eq_some_iff.mp h
  exact hflat e (List.mem_of_find?_eq_some he)

/-- Against a flat registry, what a configuration resolves to is no reference. -/
theorem refid_of_resolve_of_flat (hflat : r.Flat) (h : r.resolve c = .ok d) :
    d.refid = none := by
  cases href : c.refid with
  | none =>
    -- a configuration that is no reference stands for itself
    simp only [resolve, href, Except.ok.injEq] at h
    rw [← h, href]
  | some ref =>
    cases hget : r.get? ref with
    | none => simp [resolve, href, hget] at h
    | some stored =>
      simp only [resolve, href, hget, Except.ok.injEq] at h
      rw [← h]
      exact refid_of_get?_of_flat hflat hget

/-- A configuration that is no reference resolves to itself. -/
theorem resolve_of_refid_eq_none (h : d.refid = none) : r.resolve d = .ok d := by
  simp [resolve, h]

/-- **Step.** A registration keeps the registry flat. -/
theorem flat_of_register (hflat : r.Flat) (h : r.register name c = .ok r') : r'.Flat := by
  obtain ⟨d, hd, rfl⟩ := (register_eq_ok_iff r name c r').mp h
  intro e he
  rcases List.mem_cons.mp he with rfl | hkept
  · exact refid_of_resolve_of_flat hflat hd
  · exact hflat e (List.mem_filter.mp hkept).1

/-- Against a flat registry a configuration either names nothing registered, or resolves to a
definition that is no reference and resolves to itself: references never chain. -/
theorem resolve_of_flat (hflat : r.Flat) (c : RemoteConfig) :
    (∃ ref, c.refid = some ref ∧ r.resolve c = .error (.unresolvedReference ref)) ∨
      ∃ d, r.resolve c = .ok d ∧ d.refid = none ∧ r.resolve d = .ok d := by
  cases h : r.resolve c with
  | error e =>
    obtain ⟨ref, href, -, rfl⟩ := (resolve_eq_error_iff r c e).mp h
    exact .inl ⟨ref, href, rfl⟩
  | ok d =>
    have hflatd := refid_of_resolve_of_flat hflat h
    exact .inr ⟨d, rfl, hflatd, resolve_of_refid_eq_none hflatd⟩

/-! ## Registrations in sequence -/

/-- A registration on a registry its owner keeps: a failed one leaves it as it was. -/
def registerKeep (r : Registry) (name : String) (c : RemoteConfig) : Registry :=
  match r.register name c with
  | .ok r' => r'
  | .error _ => r

/-- The registry after each call has been registered in turn, from an empty one. -/
def ofCalls (calls : List (String × RemoteConfig)) : Registry :=
  calls.foldl (fun r call => r.registerKeep call.1 call.2) {}

theorem registerKeep_of_eq_ok (h : r.register name c = .ok r') : r.registerKeep name c = r' := by
  simp [registerKeep, h]

theorem registerKeep_of_eq_error {e : ConfigError} (h : r.register name c = .error e) :
    r.registerKeep name c = r := by
  simp [registerKeep, h]

theorem ofCalls_append_singleton (calls : List (String × RemoteConfig))
    (call : String × RemoteConfig) :
    ofCalls (calls ++ [call]) = (ofCalls calls).registerKeep call.1 call.2 := by
  simp [ofCalls, List.foldl_append]

theorem flat_registerKeep (hflat : r.Flat) : (r.registerKeep name c).Flat := by
  cases h : r.register name c with
  | ok r' => rw [registerKeep_of_eq_ok h]; exact flat_of_register hflat h
  | error e => rw [registerKeep_of_eq_error h]; exact hflat

/-- **Run.** Registering a sequence of calls keeps a registry flat. -/
theorem flat_foldl_registerKeep (calls : List (String × RemoteConfig)) (hflat : r.Flat) :
    (calls.foldl (fun r call => r.registerKeep call.1 call.2) r).Flat := by
  induction calls generalizing r with
  | nil => exact hflat
  | cons call calls ih => exact ih (flat_registerKeep hflat)

/-- Every registry a sequence of registrations reaches is flat. -/
theorem flat_ofCalls (calls : List (String × RemoteConfig)) : (ofCalls calls).Flat :=
  flat_foldl_registerKeep calls fun _ hmem => absurd hmem List.not_mem_nil

theorem registrations_store_resolved_definitions (calls : List (String × RemoteConfig)) :
    (∀ e ∈ (ofCalls calls).entries, e.2.refid = none) ∧
    (∀ name c e, (ofCalls calls).register name c = .error e →
      ofCalls (calls ++ [(name, c)]) = ofCalls calls ∧
      ∃ ref, c.refid = some ref ∧ (ofCalls calls).get? ref = none ∧
        e = .unresolvedReference ref) ∧
    (∀ name c r', (ofCalls calls).register name c = .ok r' →
      ofCalls (calls ++ [(name, c)]) = r' ∧
      ∃ d, (ofCalls calls).resolve c = .ok d ∧
        ∀ m, r'.get? m = if m = name then some d else (ofCalls calls).get? m) ∧
    (∀ c, (∃ ref, c.refid = some ref ∧
        (ofCalls calls).resolve c = .error (.unresolvedReference ref)) ∨
      ∃ d, (ofCalls calls).resolve c = .ok d ∧ d.refid = none ∧
        (ofCalls calls).resolve d = .ok d) := by
  refine ⟨flat_ofCalls calls, fun name c e h => ⟨?_, ?_⟩, fun name c r' h => ⟨?_, ?_⟩,
    resolve_of_flat (flat_ofCalls calls)⟩
  · rw [ofCalls_append_singleton]
    exact registerKeep_of_eq_error h
  · exact (resolve_eq_error_iff _ c e).mp ((register_eq_error_iff _ name c e).mp h)
  · rw [ofCalls_append_singleton]
    exact registerKeep_of_eq_ok h
  · exact get?_of_register_eq_ok h

end RepoRouting.Registry
