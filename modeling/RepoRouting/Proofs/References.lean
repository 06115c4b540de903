import RepoRouting.Build
import RepoRouting.Proofs.Prepare
import RepoRouting.Proofs.Registrations
/-!
# The named definitions of a build file

A build file's named definitions are registered in file order into an empty registry
(`BuildFile.registry`). A definition is refused when its name is blank once trimmed, and
otherwise when it refers to a name that no earlier definition has (`Refused`); the first one
refused gives the error. Names are matched as written: only the blank check trims.

* `foldlM_eq_error_iff`: a run of steps that can fail fails exactly at a step that fails from
  the state the steps before it reached;
* `Registry.isSome_get?_of_foldlM`, `Registry.get?_of_foldlM_of_not_mem`: registering a list of
  definitions adds exactly their names, and leaves a name the list does not define as it was;
* `registry_eq_ok_iff`, `registry_eq_error_iff`: a file's definitions are registered exactly
  when none is refused, and otherwise the error is that of the first one refused;
* `registry_registers_in_order`: besides, a name ends up holding what its last definition
  stood for when it was registered, the definition itself or, for a reference, the whole
  definition then held under the name it refers to.
-/

namespace RepoRouting

/-! ## Runs of steps that can fail -/

section Run

variable {σ α ε : Type} (f : σ → α → Except ε σ)

theorem foldlM_cons_of_error {s : σ} {x : α} {l : List α} {e : ε} (h : f s x = .error e) :
    (x :: l).foldlM f s = .error e := by
  simp [h, bind, Except.bind]

theorem foldlM_cons_eq_of_ok {s t : σ} {x : α} {l : List α} (h : f s x = .ok t) :
    (x :: l).foldlM f s = l.foldlM f t := by
  simp [h, bind, Except.bind]

/-- A run succeeds when its first step does and the rest runs from there. -/
theorem foldlM_cons_eq_ok_iff {s t : σ} {x : α} {l : List α} :
    (x :: l).foldlM f s = .ok t ↔ ∃ s', f s x = .ok s' ∧ l.foldlM f s' = .ok t := by
  cases h : f s x with
  | error e => simp [foldlM_cons_of_error f h]
  | ok s' => simp [foldlM_cons_eq_of_ok f h]

/-- A run that succeeds succeeds on each part of its list, each from where the one before
stopped. -/
theorem foldlM_append_cons_eq_ok {s t : σ} {pre post : List α} {x : α}
    (h : (pre ++ x :: post).foldlM f s = .ok t) :
    ∃ t₁ t₂, pre.foldlM f s = .ok t₁ ∧ f t₁ x = .ok t₂ ∧ post.foldlM f t₂ = .ok t := by
  rw [List.foldlM_append] at h
  cases h₁ : pre.foldlM f s with
  | error e => simp [h₁, bind, Except.bind] at h
  | ok t₁ =>
    rw [h₁] at h
    cases h₂ : f t₁ x with
    | error e => simp [h₂, bind, Except.bind] at h
    | ok t₂ => exact ⟨t₁, t₂, rfl, h₂, by simpa [h₂, bind, Except.bind] using h⟩

/-- **Failing runs.** A run fails exactly at a step that fails from the state the steps before
it reached. -/
theorem foldlM_eq_error_iff (s : σ) (l : List α) (e : ε) :
    l.foldlM f s = .error e ↔
      ∃ pre x post t, l = pre ++ x :: post ∧ pre.foldlM f s = .ok t ∧ f t x = .error e := by
  constructor
  · intro h
    induction l generalizing s with
    | nil => simp [pure, Except.pure] at h
    | cons y l ih =>
      cases hy : f s y with
      | error e' =>
        -- the first step fails
        rw [foldlM_cons_of_error f hy] at h
        exact ⟨[], y, l, s, rfl, rfl, h ▸ hy⟩
      | ok s₁ =>
        rw [foldlM_cons_eq_of_ok f hy] at h
        obtain ⟨pre, x, post, t, rfl, hpre, hx⟩ := ih s₁ h
        exact ⟨y :: pre, x, post, t, rfl, by rw [foldlM_cons_eq_of_ok f hy, hpre], hx⟩
  · rintro ⟨pre, x, post, t, rfl, hpre, hx⟩
    rw [List.foldlM_append, hpre]
    simp [hx, bind, Except.bind]

end Run

/-! ## Registering named definitions -/

namespace Registry

theorem get?_empty (name : String) : ({} : Registry).get? name = none := rfl

/-- One definition is refused for a blank name, and otherwise for a reference to a name that
holds nothing. -/
theorem registerNamed_eq_error_iff (reg : Registry) (r : NamedRepo) (e : ConfigError) :
    reg.registerNamed r = .error e ↔
      (Text.trim r.name = "" ∧ e = .missingAttribute "repository reference" "name") ∨
      (Text.trim r.name ≠ "" ∧
        ∃ ref, r.repo.refid = some ref ∧ reg.get? ref = none ∧ e = .unresolvedReference ref) := by
  unfold registerNamed
  by_cases hb : Text.isBlankText r.name
  · have hblank : Text.trim r.name = "" := (Text.trim_eq_empty_iff _).mpr hb
    simp [hb, hblank, eq_comm]
  · have hname : Text.trim r.name ≠ "" := fun h => hb ((Text.trim_eq_empty_iff _).mp h)
    rw [if_neg hb, register_eq_error_iff, resolve_eq_error_iff]
    simp [hname]

/-- A definition registered stores under its name what it stands for, and leaves every other
name as it was. -/
theorem get?_of_registerNamed_eq_ok {reg reg' : Registry} {r : NamedRepo}
    (h : reg.registerNamed r = .ok reg') :
    ∃ d, reg.resolve r.repo = .ok d ∧
      ∀ m, reg'.get? m = if m = r.name then some d else reg.get? m := by
  unfold registerNamed at h
  split at h
  · cases h
  · exact get?_of_register_eq_ok h

variable {refs : List NamedRepo} {reg reg' : Registry}

/-- **Names held.** Registering a list of definitions adds exactly their names. -/
theorem isSome_get?_of_foldlM (h : refs.foldlM registerNamed reg = .ok reg') (N : String) :
    (reg'.get? N).isSome ↔ (reg.get? N).isSome ∨ N ∈ refs.map NamedRepo.name := by
  induction refs generalizing reg with
  | nil =>
    simp only [List.foldlM_nil, pure, Except.pure, Except.ok.injEq] at h
    simp [h]
  | cons r refs ih =>
    obtain ⟨mid, hstep, hrest⟩ := (foldlM_cons_eq_ok_iff _).mp h
    obtain ⟨d, -, hget⟩ := get?_of_registerNamed_eq_ok hstep
    rw [ih hrest, hget N, List.map_cons, List.mem_cons]
    by_cases hN : N = r.name <;> simp [hN]

/-- **Frame.** A name that a list of definitions does not define keeps what it held. -/
theorem get?_of_foldlM_of_not_mem (h : refs.foldlM registerNamed reg = .ok reg') {N : String}
    (hN : N ∉ refs.map NamedRepo.name) : reg'.get? N = reg.get? N := by
  induction refs generalizing reg with
  | nil =>
    simp only [List.foldlM_nil, pure, Except.pure, Except.ok.injEq] at h
    rw [h]
  | cons r refs ih =>
    obtain ⟨mid, hstep, hrest⟩ := (foldlM_cons_eq_ok_iff _).mp h
    rw [List.map_cons, List.mem_cons, not_or] at hN
    obtain ⟨d, -, hget⟩ := get?_of_registerNamed_eq_ok hstep
    rw [ih hrest hN.2, hget N, if_neg hN.1]

end Registry

namespace BuildFile

/-! ## Which definitions are refused -/

/-- Why a definition of a build file, registered after the definitions `before`, is refused:
its name is checked first, then its reference. -/
inductive Refused (before : List NamedRepo) (r : NamedRepo) : ConfigError → Prop
  /-- Its name is blank once trimmed. -/
  | blankName : Text.trim r.name = "" →
      Refused before r (.missingAttribute "repository reference" "name")
  /-- It has a name, and refers to a name that no earlier definition has, as written. -/
  | unknownReference {ref : String} : Text.trim r.name ≠ "" → r.repo.refid = some ref →
      ref ∉ before.map NamedRepo.name → Refused before r (.unresolvedReference ref)

/-- A definition passes when its name is not blank and it refers, if at all, to an earlier
name. -/
theorem forall_not_refused_iff (before : List NamedRepo) (r : NamedRepo) :
    (∀ e, ¬ Refused before r e) ↔
      Text.trim r.name ≠ "" ∧ ∀ ref, r.repo.refid = some ref → ref ∈ before.map NamedRepo.name := by
  constructor
  · intro h
    refine ⟨fun hb => h _ (.blankName hb), fun ref href => ?_⟩
    exact Decidable.byContradiction fun hnot =>
      h _ (.unknownReference (fun hb => h _ (.blankName hb)) href hnot)
  · rintro ⟨hname, href⟩ e (hb | ⟨_, hr, hnot⟩)
    · exact hname hb
    · exact hnot (href _ hr)

variable {before : List NamedRepo} {reg : Registry}

/-- After the definitions `before` are registered, a definition is refused by the registry
exactly as `Refused` says: the names held are the names of `before`. -/
theorem registerNamed_eq_error_iff_refused
    (hreg : before.foldlM Registry.registerNamed {} = .ok reg) (r : NamedRepo) (e : ConfigError) :
    reg.registerNamed r = .error e ↔ Refused before r e := by
  have hheld : ∀ ref, reg.get? ref = none ↔ ref ∉ before.map NamedRepo.name := by
    intro ref
    have hnames := Registry.isSome_get?_of_foldlM hreg ref
    rw [Registry.get?_empty, Option.isSome_none, Bool.false_eq_true, false_or] at hnames
    rw [← Option.not_isSome_iff_eq_none, hnames]
  rw [Registry.registerNamed_eq_error_iff]
  constructor
  · rintro (⟨hb, rfl⟩ | ⟨hb, ref, href, hget, rfl⟩)
    · exact .blankName hb
    · exact .unknownReference hb href ((hheld ref).mp hget)
  · rintro (hb | ⟨hb, href, hnot⟩)
    · exact .inl ⟨hb, rfl⟩
    · exact .inr ⟨hb, _, href, (hheld _).mpr hnot, rfl⟩

/-- A list of definitions is registered exactly when none is refused. -/
theorem registry_eq_ok_iff (refs : List NamedRepo) :
    (∃ reg, refs.foldlM Registry.registerNamed {} = .ok reg) ↔
      ∀ pre r post, refs = pre ++ r :: post → ∀ e, ¬ Refused pre r e := by
  constructor
  · rintro ⟨reg, h⟩ pre r post rfl e hrefused
    obtain ⟨t₁, t₂, h₁, h₂, -⟩ := foldlM_append_cons_eq_ok _ h
    have hfails := (registerNamed_eq_error_iff_refused h₁ r e).mpr hrefused
    rw [h₂] at hfails
    cases hfails
  · intro hnone
    cases h : refs.foldlM Registry.registerNamed {} with
    | ok reg => exact ⟨reg, rfl⟩
    | error e =>
      obtain ⟨pre, r, post, t, hl, hpre, hr⟩ := (foldlM_eq_error_iff _ _ _ _).mp h
      exact absurd ((registerNamed_eq_error_iff_refused hpre r e).mp hr) (hnone pre r post hl e)

/-- A list of definitions fails with the error of the first one refused. -/
theorem registry_eq_error_iff (refs : List NamedRepo) (e : ConfigError) :
    refs.foldlM Registry.registerNamed {} = .error e ↔
      ∃ pre r post, refs = pre ++ r :: post ∧ Refused pre r e ∧
        ∀ pre' r' post', pre = pre' ++ r' :: post' → ∀ e', ¬ Refused pre' r' e' := by
  rw [foldlM_eq_error_iff]
  constructor
  · rintro ⟨pre, r, post, t, hl, hpre, hr⟩
    exact ⟨pre, r, post, hl, (registerNamed_eq_error_iff_refused hpre r e).mp hr,
      (registry_eq_ok_iff pre).mp ⟨t, hpre⟩⟩
  · rintro ⟨pre, r, post, hl, hr, hbefore⟩
    obtain ⟨t, hpre⟩ := (registry_eq_ok_iff pre).mpr hbefore
    exact ⟨pre, r, post, t, hl, hpre, (registerNamed_eq_error_iff_refused hpre r e).mpr hr⟩

/-! ## What each name holds -/

/-- A name holds what its last definition stood for against the definitions before it. -/
theorem get?_of_last_definition {refs pre post : List NamedRepo} {r : NamedRepo}
    (h : refs.foldlM Registry.registerNamed {} = .ok reg) (hl : refs = pre ++ r :: post)
    (hlast : r.name ∉ post.map NamedRepo.name) :
    ∃ before, pre.foldlM Registry.registerNamed {} = .ok before ∧
      ∃ d, before.resolve r.repo = .ok d ∧ reg.get? r.name = some d := by
  subst hl
  obtain ⟨before, mid, hpre, hstep, hpost⟩ := foldlM_append_cons_eq_ok _ h
  obtain ⟨d, hd, hget⟩ := Registry.get?_of_registerNamed_eq_ok hstep
  refine ⟨before, hpre, d, hd, ?_⟩
  rw [Registry.get?_of_foldlM_of_not_mem hpost hlast, hget, if_pos rfl]

/-- **The references of a build file.** They are registered exactly when every name is
non-blank once trimmed and every reference names, as written, an earlier definition; otherwise
the error is that of the first definition refused, a blank name before an unknown reference.
After a registration a name is held exactly when some definition has it, and it holds what its
last definition stood for: the definition itself, or for a reference the whole definition
held under the name it refers to just before, its own other fields dropped. -/
theorem registry_registers_in_order (b : BuildFile) :
    ((∃ reg, b.registry = .ok reg) ↔
      ∀ pre r post, b.references = pre ++ r :: post →
        Text.trim r.name ≠ "" ∧ ∀ ref, r.repo.refid = some ref → ref ∈ pre.map NamedRepo.name) ∧
    (∀ e, b.registry = .error e ↔
      ∃ pre r post, b.references = pre ++ r :: post ∧ Refused pre r e ∧
        ∀ pre' r' post', pre = pre' ++ r' :: post' → ∀ e', ¬ Refused pre' r' e') ∧
    ∀ reg, b.registry = .ok reg → ∀ N,
      (reg.has N = true ↔ N ∈ b.references.map NamedRepo.name) ∧
      ∀ pre r post, b.references = pre ++ r :: post → r.name = N →
        N ∉ post.map NamedRepo.name →
        (r.repo.refid = none → reg.get? N = some r.repo) ∧
        ∀ ref, r.repo.refid = some ref → ∃ before,
          { b with references := pre }.registry = .ok before ∧
          (before.get? ref).isSome ∧ reg.get? N = before.get? ref := by
  refine ⟨?_, fun e => registry_eq_error_iff b.references e, fun reg h N => ⟨?_, ?_⟩⟩
  · rw [registry, registry_eq_ok_iff]
    simp only [forall_not_refused_iff]
  · have hnames := Registry.isSome_get?_of_foldlM h N
    rw [Registry.get?_empty, Option.isSome_none, Bool.false_eq_true, false_or] at hnames
    exact hnames
  · rintro pre r post hl rfl hlast
    obtain ⟨before, hpre, d, hd, hget⟩ := get?_of_last_definition h hl hlast
    refine ⟨fun hnone => ?_, fun ref href => ⟨before, hpre, ?_⟩⟩
    · -- a definition that refers to nothing stands for itself
      rw [Registry.resolve_of_refid_eq_none hnone, Except.ok.injEq] at hd
      rw [hget, hd]
    · -- a reference stands for what its name held
      have hheld : before.get? ref = some d := by
        cases hget' : before.get? ref with
        | none => simp [Registry.resolve, href, hget'] at hd
        | some d' => simpa [Registry.resolve, href, hget'] using hd
      rw [hget, hheld]
      exact ⟨rfl, rfl⟩

end BuildFile

end RepoRouting
