import Mathlib.Data.List.Forall2
import Mathlib.Data.List.TakeWhile
import RepoRouting.Collect

/-!
# Preparing the entries of a collection

Before anything is de-duplicated, every entry of a collection is prepared at its position:
its reference is resolved, its url must not be blank, its id is settled and its layout must
be known. This module says what each check accepts and refuses.

* `prepare_eq_ok_iff`, `prepare_eq_error_iff`: an entry is prepared exactly when the
  definition it stands for (`StandsFor`) passes the checks (`Admits`), and it is refused
  with an error exactly as `Rejects` says, the reference first, the url second and the layout
  last;
* `prepareFrom_eq_ok_iff`, `prepareFrom_eq_error_iff`: a run over a list succeeds when every
  entry is prepared, and otherwise fails with the error of the first entry refused;
* `prepareFrom_settings`: preparing reads neither the settings nor the decryptor;
* `collect_error_iff_first_rejected`: a collection fails exactly with the error of its
  first refused entry, whatever the settings and the decryptor.
-/

namespace RepoRouting

/-! ## Blank text -/

namespace Text

theorem trimList_eq_nil_iff (cs : List Char) : trimList cs = [] ↔ ∀ c ∈ cs, isBlank c := by
  rw [trimList, List.reverse_eq_nil_iff, List.dropWhile_eq_nil_iff]
  simp only [List.mem_reverse]
  -- what is left after dropping leading blanks starts with a character that is not blank
  have hrest : (∀ c ∈ cs.dropWhile isBlank, isBlank c) ↔ cs.dropWhile isBlank = [] := by
    constructor
    · intro h
      cases hd : cs.dropWhile isBlank with
      | nil => rfl
      | cons c rest =>
        have hc := List.head_dropWhile_not isBlank (l := cs) (by simp [hd])
        simp only [hd, List.head_cons] at hc
        exact absurd (h c (by simp [hd])) (by simp [hc])
    · intro h c hc
      simp [h] at hc
  rw [hrest, List.dropWhile_eq_nil_iff]

/-- A text is blank exactly when trimming leaves nothing. -/
theorem trim_eq_empty_iff (s : String) : trim s = "" ↔ isBlankText s = true := by
  rw [trim, String.ofList_eq_empty_iff, trimList_eq_nil_iff, isBlankText, List.all_eq_true]

end Text

/-- The settled layout: the trimmed one, `default` when that is empty. -/
theorem settleLayout_eq (layout : String) :
    Collector.settleLayout layout =
      if Text.trim layout = "" then "default" else Text.trim layout := by
  simp [Collector.settleLayout, String.isEmpty_iff, defaultLayout]

namespace Collector

variable (k : Collector)

/-! ## What each check accepts -/

/-- The definition an entry stands for: the entry itself when it has no reference, else the
definition registered under its reference. -/
def StandsFor (c d : RemoteConfig) : Prop :=
  (c.refid = none ∧ d = c) ∨
    ∃ ref reg, c.refid = some ref ∧ k.registry = some reg ∧ reg.get? ref = some d

/-- What preparing checks of a resolved definition: its url is not blank, and its trimmed
layout, `default` when blank, is known. -/
def Admits (d : RemoteConfig) : Prop :=
  Text.trim d.url ≠ "" ∧ settleLayout d.layout ∈ knownLayouts

/-- A resolved definition with its id settled and its layout normalised. -/
def settled (d : RemoteConfig) : Prepared :=
  ⟨k.settleId d, { d with id := some (k.settleId d), layout := settleLayout d.layout }⟩

/-- Why the entry at a position is refused, in the order the checks are made. -/
inductive Rejects (position : Nat) (c : RemoteConfig) : ConfigError → Prop
  /-- It names a definition, and there is no registry or nothing registered under that
  name. -/
  | unresolved {ref : String} : c.refid = some ref →
      (∀ reg, k.registry = some reg → reg.get? ref = none) →
      Rejects position c (.unresolvedReference ref)
  /-- The definition it stands for has a url that is empty once trimmed. -/
  | emptyUrl {d : RemoteConfig} : k.StandsFor c d → Text.trim d.url = "" →
      Rejects position c (.emptyUrl position d.id)
  /-- The definition has a url, but its trimmed layout, `default` when blank, is neither
  `default` nor `legacy`. -/
  | unknownLayout {d : RemoteConfig} : k.StandsFor c d → Text.trim d.url ≠ "" →
      (if Text.trim d.layout = "" then "default" else Text.trim d.layout) ∉
        ["default", "legacy"] →
      Rejects position c (.unknownLayout (k.settleId d) (Text.trim d.layout))

theorem resolveRef_eq_ok_iff {c d : RemoteConfig} : k.resolveRef c = .ok d ↔ k.StandsFor c d := by
  unfold resolveRef StandsFor
  cases hr : c.refid with
  | none => simp [eq_comm]
  | some ref =>
    cases hk : k.registry with
    | none => simp
    | some reg =>
      simp only [Registry.resolve, hr, reduceCtorEq, false_and, Option.some.injEq,
        exists_and_left, exists_eq_left', false_or]
      cases reg.get? ref <;> simp

theorem resolveRef_eq_error_iff {c : RemoteConfig} {e : ConfigError} :
    k.resolveRef c = .error e ↔
      ∃ ref, c.refid = some ref ∧ (∀ reg, k.registry = some reg → reg.get? ref = none) ∧
        e = .unresolvedReference ref := by
  unfold resolveRef
  cases hr : c.refid with
  | none => simp
  | some ref =>
    cases hk : k.registry with
    | none => simp [eq_comm]
    | some reg =>
      simp only [Registry.resolve, hr, Option.some.injEq, forall_eq', exists_eq_left']
      cases reg.get? ref <;> simp [eq_comm]

/-! ## One entry -/

section Entry

variable {n : Nat} {c d : RemoteConfig} {e : ConfigError}

/-- An entry whose reference fails is refused with that failure. -/
theorem prepare_of_resolveRef_error (h : k.resolveRef c = .error e) :
    k.prepare n c = .error e := by
  simp [prepare, h, bind, Except.bind]

/-- An entry whose reference resolves: the url is checked, then the layout. -/
theorem prepare_of_resolveRef_ok (h : k.resolveRef c = .ok d) :
    k.prepare n c =
      if Text.isBlankText d.url then .error (.emptyUrl n d.id)
      else if settleLayout d.layout ∈ knownLayouts then .ok (k.settled d)
      else .error (.unknownLayout (k.settleId d) (settleLayout d.layout)) := by
  unfold prepare
  rw [h]
  by_cases hb : Text.isBlankText d.url <;>
    simp [hb, bind, Except.bind, throw, throwThe, MonadExceptOf.throw, settled]

theorem prepare_eq_ok_iff {p : Prepared} :
    k.prepare n c = .ok p ↔ ∃ d, k.StandsFor c d ∧ Admits d ∧ p = k.settled d := by
  cases hr : k.resolveRef c with
  | error e =>
    rw [prepare_of_resolveRef_error k hr]
    simp only [reduceCtorEq, false_iff, not_exists, not_and]
    intro d hd
    rw [← resolveRef_eq_ok_iff, hr] at hd
    cases hd
  | ok d =>
    have hs : ∀ d', k.StandsFor c d' ↔ d' = d := fun d' => by
      rw [← resolveRef_eq_ok_iff, hr, Except.ok.injEq, eq_comm]
    rw [prepare_of_resolveRef_ok k hr]
    simp only [hs, exists_eq_left, Admits, ne_eq, Text.trim_eq_empty_iff]
    by_cases hb : Text.isBlankText d.url
    · simp [hb]
    · by_cases hl : settleLayout d.layout ∈ knownLayouts <;> simp [hb, hl, eq_comm]

theorem prepare_eq_error_iff : k.prepare n c = .error e ↔ k.Rejects n c e := by
  constructor
  · intro h
    cases hr : k.resolveRef c with
    | error e' =>
      rw [prepare_of_resolveRef_error k hr, Except.error.injEq] at h
      obtain ⟨ref, href, hreg, rfl⟩ := (resolveRef_eq_error_iff k).mp hr
      exact h ▸ .unresolved href hreg
    | ok d =>
      have hs : k.StandsFor c d := (resolveRef_eq_ok_iff k).mp hr
      rw [prepare_of_resolveRef_ok k hr] at h
      by_cases hb : Text.isBlankText d.url
      · rw [if_pos hb, Except.error.injEq] at h
        exact h ▸ .emptyUrl hs (Text.trim_eq_empty_iff _ |>.mpr hb)
      · rw [if_neg hb] at h
        have hu : Text.trim d.url ≠ "" := (Text.trim_eq_empty_iff _).not.mpr hb
        by_cases hl : settleLayout d.layout ∈ knownLayouts
        · simp [hl] at h
        · rw [if_neg hl, Except.error.injEq] at h
          -- a blank layout settles on `default`, which is known: so the layout is not blank
          have ht : Text.trim d.layout ≠ "" := fun ht => hl (by simp [settleLayout_eq, ht,
            knownLayouts])
          rw [settleLayout_eq, if_neg ht] at h
          rw [settleLayout_eq] at hl
          exact h ▸ .unknownLayout hs hu hl
  · intro h
    cases h with
    | unresolved href hreg =>
      exact prepare_of_resolveRef_error k ((resolveRef_eq_error_iff k).mpr ⟨_, href, hreg, rfl⟩)
    | emptyUrl hs hu =>
      rw [prepare_of_resolveRef_ok k ((resolveRef_eq_ok_iff k).mpr hs),
        if_pos ((Text.trim_eq_empty_iff _).mp hu)]
    | @unknownLayout d hs hu hl =>
      have ht : Text.trim d.layout ≠ "" := fun ht => hl (by simp [ht])
      rw [prepare_of_resolveRef_ok k ((resolveRef_eq_ok_iff k).mpr hs),
        if_neg ((Text.trim_eq_empty_iff _).not.mp hu), settleLayout_eq, if_neg ht,
        if_neg (by simpa [ht, knownLayouts] using hl)]

/-- The definition an entry stands for is unique. -/
theorem StandsFor.unique {d' : RemoteConfig} (h : k.StandsFor c d) (h' : k.StandsFor c d') :
    d = d' := by
  rw [← resolveRef_eq_ok_iff] at h h'
  rw [h] at h'
  exact Except.ok.inj h'

/-- Preparing reads the registry and the id source, and nothing else of the collector. -/
theorem prepare_settings (S : Settings) (D : Decryptor) :
    { k with settings := S, decryptor := D }.prepare n c = k.prepare n c := rfl

end Entry

/-! ## A run over the entries -/

section Run

variable {n : Nat} {l : List RemoteConfig}

/-- A run succeeds when every entry is prepared, each as the definition it stands for. -/
theorem prepareFrom_eq_ok_iff {ps : List Prepared} :
    k.prepareFrom n l = .ok ps ↔
      ∃ ds, List.Forall₂ (fun c d => k.StandsFor c d ∧ Admits d) l ds ∧
        ps = ds.map k.settled := by
  induction l generalizing n ps with
  | nil => simp [prepareFrom, eq_comm]
  | cons c l ih =>
    cases hp : k.prepare n c with
    | error e =>
      simp only [prepareFrom, hp, bind, Except.bind, reduceCtorEq, false_iff, not_exists,
        not_and, List.forall₂_cons_left_iff]
      rintro _ ⟨d, ds, ⟨hs, ha⟩, -, rfl⟩ -
      have := (prepare_eq_ok_iff k (n := n)).mpr ⟨d, hs, ha, rfl⟩
      rw [hp] at this
      cases this
    | ok p =>
      obtain ⟨d, hs, ha, rfl⟩ := (prepare_eq_ok_iff k).mp hp
      simp only [prepareFrom, hp, bind, Except.bind]
      cases hl : k.prepareFrom (n + 1) l with
      | error e =>
        simp only [reduceCtorEq, false_iff, not_exists, not_and, List.forall₂_cons_left_iff]
        rintro _ ⟨d', ds, -, hds, rfl⟩ -
        rw [ih.mpr ⟨ds, hds, rfl⟩] at hl
        cases hl
      | ok ps' =>
        obtain ⟨ds, hds, rfl⟩ := ih.mp hl
        simp only [Except.ok.injEq, List.forall₂_cons_left_iff]
        constructor
        · rintro rfl
          exact ⟨d :: ds, ⟨d, ds, ⟨hs, ha⟩, hds, rfl⟩, rfl⟩
        · rintro ⟨_, ⟨d', ds', ⟨hs', -⟩, hds', rfl⟩, rfl⟩
          obtain rfl := StandsFor.unique k hs hs'
          -- the rest was prepared once: both lists of definitions settle to it
          have hrest := (ih (n := n + 1)).mpr ⟨ds', hds', rfl⟩
          rw [hl, Except.ok.injEq] at hrest
          rw [List.map_cons, hrest]

/-- A run fails exactly with the error of the first entry refused, every entry before it
being prepared. -/
theorem prepareFrom_eq_error_iff {e : ConfigError} :
    k.prepareFrom n l = .error e ↔
      ∃ i, ∃ h : i < l.length, k.prepare (n + i) l[i] = .error e ∧
        ∀ j (hj : j < i), ∃ p, k.prepare (n + j) l[j] = .ok p := by
  induction l generalizing n with
  | nil => simp [prepareFrom]
  | cons c l ih =>
    cases hp : k.prepare n c with
    | error e' =>
      simp only [prepareFrom, hp, bind, Except.bind, Except.error.injEq]
      constructor
      · rintro rfl
        exact ⟨0, by simp, by simpa using hp, fun j hj => absurd hj (Nat.not_lt_zero j)⟩
      · rintro ⟨i, hi, he, hbefore⟩
        cases i with
        | zero => simpa [hp] using he
        | succ i =>
          obtain ⟨p, hp'⟩ := hbefore 0 (Nat.zero_lt_succ i)
          simp [hp] at hp'
    | ok p =>
      have hrun : k.prepareFrom n (c :: l) = .error e ↔ k.prepareFrom (n + 1) l = .error e := by
        simp only [prepareFrom, hp, bind, Except.bind]
        cases k.prepareFrom (n + 1) l <;> simp
      rw [hrun, ih]
      constructor
      · rintro ⟨i, hi, he, hbefore⟩
        refine ⟨i + 1, by simpa using hi, ?_, fun j hj => ?_⟩
        · rw [show n + (i + 1) = n + 1 + i by omega]
          simpa using he
        · cases j with
          | zero => exact ⟨p, by simpa using hp⟩
          | succ j =>
            rw [show n + (j + 1) = n + 1 + j by omega]
            simpa using hbefore j (by omega)
      · rintro ⟨i, hi, he, hbefore⟩
        cases i with
        | zero => simp [hp] at he
        | succ i =>
          refine ⟨i, by simpa using hi, ?_, fun j hj => ?_⟩
          · rw [show n + 1 + i = n + (i + 1) by omega]
            simpa using he
          · rw [show n + 1 + j = n + (j + 1) by omega]
            simpa using hbefore (j + 1) (by omega)

/-- Preparing a run reads neither the settings nor the decryptor. -/
theorem prepareFrom_settings (S : Settings) (D : Decryptor) :
    { k with settings := S, decryptor := D }.prepareFrom n l = k.prepareFrom n l := by
  induction l generalizing n with
  | nil => rfl
  | cons c l ih => simp only [prepareFrom, prepare_settings, ih]

end Run

/-! ## Collections that fail -/

section Failure

variable {configured declared : List RemoteConfig} {e : ConfigError}

/-- A collection fails exactly when preparing its entries fails, with the same error. -/
theorem collect_eq_error_iff :
    k.collect configured declared = .error e ↔
      k.prepareFrom 1 (entries configured declared) = .error e := by
  unfold collect
  cases k.prepareFrom 1 (entries configured declared) <;> simp [bind, Except.bind]

/-- A collection fails exactly with the error of the first entry refused, counted from one
over the configured then the declared entries (or the central repository alone), before
any entry is dropped as a duplicate; the settings and the decryptor play no part. -/
theorem collect_error_iff_first_rejected :
    (k.collect configured declared = .error e ↔
      ∃ i, ∃ h : i < (entries configured declared).length,
        k.Rejects (i + 1) (entries configured declared)[i] e ∧
        ∀ j (hj : j < i) e', ¬ k.Rejects (j + 1) (entries configured declared)[j] e') ∧
    ∀ (S : Settings) (D : Decryptor),
      ({ k with settings := S, decryptor := D }.collect configured declared = .error e ↔
        k.collect configured declared = .error e) := by
  refine ⟨?_, fun S D => ?_⟩
  · rw [collect_eq_error_iff, prepareFrom_eq_error_iff]
    -- an entry is prepared exactly when it is refused with no error
    have hok : ∀ j c, (∃ p, k.prepare j c = .ok p) ↔ ∀ e', ¬ k.Rejects j c e' := by
      intro j c
      simp only [← prepare_eq_error_iff]
      cases k.prepare j c <;> simp
    simp only [Nat.add_comm 1, prepare_eq_error_iff, hok]
  · rw [collect_eq_error_iff, collect_eq_error_iff, prepareFrom_settings]

end Failure

end Collector

end RepoRouting
