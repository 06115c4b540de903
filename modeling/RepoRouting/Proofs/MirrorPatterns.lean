import RepoRouting.Mirror
/-!
# What a mirror pattern names

A mirror pattern names a repository when it is `*` or the repository's id, or else by its
comma-separated terms, each trimmed: no term may exclude the id (`!` followed by the id, which is
not empty), and some term that is no exclusion must be the id, `*`, or `external:*` for an
external url (`matchesPattern_eq_true_iff`). An exclusion therefore wins wherever it stands, a
bare `!` is an ordinary term, and a term equal to an id that itself starts with `!` never names
that id. Past the shortcuts, only the set of terms matters (`matchesPattern_eq_of_same_terms`).

The scan over the terms stops at an exclusion of the id and otherwise remembers whether a term
admitted the repository; `scanTerms_eq_true_iff` states its answer for any remembered value, by
induction on the terms.

The mirror of a repository is the first mirror whose pattern is exactly its id, and else the
first whose pattern names it (`map_fst_findMirror`). Since a pattern equal to the id names it,
no mirror is found exactly when no pattern names the repository (`findMirror_eq_none_iff`).
-/

namespace RepoRouting

/-- A term `!name` excludes `name` exactly when the name is not empty. -/
theorem excludedId?_eq_some_iff (t n : String) :
    excludedId? t = some n ↔ n ≠ "" ∧ t = "!" ++ n := by
  have hchars : t = "!" ++ n ↔ t.toList = '!' :: n.toList := by
    rw [← String.toList_inj, String.toList_append]
    simp
  rw [hchars]
  unfold excludedId?
  split
  · rename_i c cs hcs
    rw [hcs, Option.some.injEq, List.cons.injEq]
    constructor
    · rintro rfl
      simp
    · rintro ⟨hne, -, hrest⟩
      rw [hrest, String.ofList_toList]
  · rename_i hshape
    simp only [reduceCtorEq, false_iff, not_and]
    intro hne ht
    have hchars : n.toList ≠ [] := fun hnil => hne (String.toList_eq_nil_iff.mp hnil)
    obtain ⟨c, cs, hcs⟩ := List.exists_cons_of_ne_nil hchars
    rw [hcs] at ht
    exact hshape c cs ht

theorem excludedId?_eq_none_iff (t : String) :
    excludedId? t = none ↔ ∀ n, n ≠ "" → t ≠ "!" ++ n := by
  rw [Option.eq_none_iff_forall_ne_some]
  refine forall_congr' fun n => ?_
  rw [ne_eq, excludedId?_eq_some_iff]
  exact not_and

/-- No term excludes the id when no term is `!` followed by the id, itself not empty. -/
theorem excludedId?_ne_some_iff (t id : String) :
    excludedId? t ≠ some id ↔ ∀ n, n ≠ "" → t = "!" ++ n → n ≠ id := by
  rw [ne_eq, excludedId?_eq_some_iff]
  constructor
  · rintro hnot n hn ht rfl
    exact hnot ⟨hn, ht⟩
  · rintro hnot ⟨hn, ht⟩
    exact hnot id hn ht rfl

theorem termAdmits_eq_true_iff (id url t : String) :
    termAdmits id url t = true ↔
      t = id ∨ t = "*" ∨ (t = "external:*" ∧ Url.isExternal url = true) := by
  simp [termAdmits, or_assoc]

/-- **The scan of the terms.** It answers `true` exactly when no term excludes the id and the
repository was admitted before or some term that is no exclusion admits it. -/
theorem scanTerms_eq_true_iff (id url : String) (ts : List String) (matched : Bool) :
    scanTerms id url ts matched = true ↔
      (∀ t ∈ ts, excludedId? t ≠ some id) ∧
        (matched = true ∨ ∃ t ∈ ts, excludedId? t = none ∧ termAdmits id url t = true) := by
  induction ts generalizing matched with
  | nil => simp [scanTerms]
  | cons t ts ih =>
    cases hex : excludedId? t with
    | some name =>
      by_cases hname : name = id
      · -- the exclusion of the id answers at once
        subst hname
        simp [scanTerms, hex]
      · -- an exclusion of another id admits nothing
        simp [scanTerms, hex, hname, ih]
    | none =>
      simp [scanTerms, hex, ih, or_assoc]

/-- Past the two shortcuts a pattern is read by scanning its trimmed terms. -/
theorem matchesPattern_of_not_shortcut {id url pattern : String} (hstar : pattern ≠ "*")
    (hid : pattern ≠ id) :
    matchesPattern id url pattern = scanTerms id url (patternTerms pattern) false := by
  simp [matchesPattern, hstar, hid]

/-- **What a mirror pattern names.** A pattern names a repository when it is `*` or the id
itself, or else when no trimmed term is `!` followed by the id (not empty) and some term that is
no exclusion is the id, `*`, or `external:*` for an external url. -/
theorem matchesPattern_eq_true_iff (id url pattern : String) :
    matchesPattern id url pattern = true ↔
      pattern = "*" ∨ pattern = id ∨
        ((∀ t ∈ (pattern.splitOn ",").map Text.trim, ∀ n, n ≠ "" → t = "!" ++ n → n ≠ id) ∧
          ∃ t ∈ (pattern.splitOn ",").map Text.trim, (∀ n, n ≠ "" → t ≠ "!" ++ n) ∧
            (t = id ∨ t = "*" ∨ (t = "external:*" ∧ Url.isExternal url = true))) := by
  rw [matchesPattern, Bool.or_eq_true, Bool.or_eq_true, beq_iff_eq, beq_iff_eq,
    scanTerms_eq_true_iff, or_assoc]
  simp only [patternTerms, Bool.false_eq_true, false_or, excludedId?_ne_some_iff,
    excludedId?_eq_none_iff, termAdmits_eq_true_iff]

/-- **Terms as a set.** Past the shortcuts, whether a pattern names a repository depends only
on which terms it has, not on their order or how often they stand. -/
theorem matchesPattern_eq_of_same_terms {id url p q : String} (hp : p ≠ "*" ∧ p ≠ id)
    (hq : q ≠ "*" ∧ q ≠ id) (hterms : ∀ t, t ∈ patternTerms p ↔ t ∈ patternTerms q) :
    matchesPattern id url p = matchesPattern id url q := by
  rw [matchesPattern_of_not_shortcut hp.1 hp.2, matchesPattern_of_not_shortcut hq.1 hq.2,
    Bool.eq_iff_iff, scanTerms_eq_true_iff, scanTerms_eq_true_iff]
  simp only [hterms]

theorem mirror_pattern_names_iff (id url pattern : String) :
    (matchesPattern id url pattern = true ↔
      pattern = "*" ∨ pattern = id ∨
        ((∀ t ∈ (pattern.splitOn ",").map Text.trim, ∀ n, n ≠ "" → t = "!" ++ n → n ≠ id) ∧
          ∃ t ∈ (pattern.splitOn ",").map Text.trim, (∀ n, n ≠ "" → t ≠ "!" ++ n) ∧
            (t = id ∨ t = "*" ∨ (t = "external:*" ∧ Url.isExternal url = true)))) ∧
    ∀ q, pattern ≠ "*" → pattern ≠ id → q ≠ "*" → q ≠ id →
      (∀ t, t ∈ (pattern.splitOn ",").map Text.trim ↔ t ∈ (q.splitOn ",").map Text.trim) →
      matchesPattern id url pattern = matchesPattern id url q :=
  ⟨matchesPattern_eq_true_iff id url pattern, fun _ hstar hid hstar' hid' hterms =>
    matchesPattern_eq_of_same_terms ⟨hstar, hid⟩ ⟨hstar', hid'⟩ hterms⟩

/-! ## The mirror of a repository -/

/-- A pattern equal to the id names it. -/
theorem matchesPattern_self (id url : String) : matchesPattern id url id = true := by
  simp [matchesPattern]

/-- Searching the numbered mirrors finds the first mirror that passes, with its position. -/
theorem map_fst_find?_zipIdx (p : Mirror → Bool) (ms : List Mirror) :
    (ms.zipIdx.find? fun q => p q.1).map Prod.fst = ms.find? p := by
  calc (ms.zipIdx.find? fun q => p q.1).map Prod.fst
      = (ms.zipIdx.map Prod.fst).find? p := List.find?_map.symm
    _ = ms.find? p := by rw [List.zipIdx_map_fst]

/-- The mirror search is a search for an exact pattern, then one for a matching pattern. -/
theorem findMirror_eq (id url : String) (ms : List Mirror) :
    findMirror id url ms =
      (ms.zipIdx.find? fun q => q.1.mirrorOf == id).or
        (ms.zipIdx.find? fun q => matchesPattern id url q.1.mirrorOf) := by
  cases h : ms.zipIdx.find? (fun q => q.1.mirrorOf == id) <;> simp [findMirror, h]

/-- The mirror found, and its position, pass one of the two searches. -/
theorem findMirror_eq_some {id url : String} {ms : List Mirror} {m : Mirror} {i : Nat}
    (h : findMirror id url ms = some (m, i)) :
    ms[i]? = some m ∧ (m.mirrorOf = id ∨ matchesPattern id url m.mirrorOf = true) := by
  rw [findMirror_eq, Option.or_eq_some_iff] at h
  rcases h with hexact | ⟨-, hmatch⟩
  · exact ⟨List.mk_mem_zipIdx_iff_getElem?.mp (List.mem_of_find?_eq_some hexact),
      .inl (by simpa using List.find?_some hexact)⟩
  · exact ⟨List.mk_mem_zipIdx_iff_getElem?.mp (List.mem_of_find?_eq_some hmatch),
      .inr (by simpa using List.find?_some hmatch)⟩

/-- The mirror serving a repository is the first with its id as the whole pattern, else the
first whose pattern names it. -/
theorem map_fst_findMirror (id url : String) (ms : List Mirror) :
    (findMirror id url ms).map Prod.fst =
      (ms.find? fun m => m.mirrorOf == id).or (ms.find? fun m => matchesPattern id url m.mirrorOf) := by
  rw [findMirror_eq, Option.map_or, map_fst_find?_zipIdx (fun m => m.mirrorOf == id),
    map_fst_find?_zipIdx (fun m => matchesPattern id url m.mirrorOf)]

/-- No mirror serves a repository exactly when no pattern names it: an exact pattern names
its id. -/
theorem findMirror_eq_none_iff (id url : String) (ms : List Mirror) :
    findMirror id url ms = none ↔ ∀ m ∈ ms, matchesPattern id url m.mirrorOf = false := by
  rw [← Option.map_eq_none_iff, map_fst_findMirror, Option.or_eq_none_iff, List.find?_eq_none,
    List.find?_eq_none]
  constructor
  · rintro ⟨-, hmatch⟩ m hm
    simpa using hmatch m hm
  · intro hmatch
    -- an exact pattern would name the id
    refine ⟨fun m hm hexact => ?_, fun m hm => by simp [hmatch m hm]⟩
    have hself : matchesPattern id url m.mirrorOf = true := by
      rw [beq_iff_eq.mp hexact]
      exact matchesPattern_self id url
    rw [hmatch m hm] at hself
    exact Bool.false_ne_true hself

/-- **The mirror of a repository.** It is the first mirror whose pattern is exactly the id,
even past earlier mirrors whose patterns name it, and else the first whose pattern names the
repository; there is none exactly when no pattern names it, and the one found sits at the
position given and names the repository. -/
theorem findMirror_prefers_exact_pattern (id url : String) (ms : List Mirror) :
    (findMirror id url ms).map Prod.fst =
        (ms.find? fun m => m.mirrorOf == id).or
          (ms.find? fun m => matchesPattern id url m.mirrorOf) ∧
    (findMirror id url ms = none ↔ ∀ m ∈ ms, matchesPattern id url m.mirrorOf = false) ∧
    ∀ m i, findMirror id url ms = some (m, i) →
      ms[i]? = some m ∧ matchesPattern id url m.mirrorOf = true := by
  refine ⟨map_fst_findMirror id url ms, findMirror_eq_none_iff id url ms, fun m i h => ?_⟩
  obtain ⟨hpos, hexact | hmatch⟩ := findMirror_eq_some h
  · exact ⟨hpos, hexact ▸ matchesPattern_self id url⟩
  · exact ⟨hpos, hmatch⟩

end RepoRouting
