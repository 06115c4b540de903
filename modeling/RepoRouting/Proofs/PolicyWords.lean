import Mathlib.Data.List.TakeWhile
import RepoRouting.Policy

/-!
# Policy words

Which texts read as policies, and what they read as: a trimmed text is an update policy when
it is `always`, `daily`, `never`, or `interval:` followed by an optional `+` and decimal
digits whose value fits in 32 bits (`UpdatePolicy.parse?_eq_some_iff`), and a checksum policy
when it is `fail`, `warn` or `ignore` (`ChecksumPolicy.parse?_eq_some_iff`). The digits are
valued by core's `Nat.ofDigitChars`, which the reader's fold is (`foldl_minutes_eq_ofDigitChars`).

Every word that is written reads back as the policy it was written from
(`UpdatePolicy.parse?_render`, `ChecksumPolicy.parse?_render`), so writing what was read is a
normal form: ` interval:+007 ` is written `interval:7`. For an interval the word is
`interval:` and the decimal digits of the minutes, which core's digit lemmas read back
(`minutesOf?_toDigits`); a written word has no blank character, so the trim the reader starts
with leaves it as it is (`Text.trim_of_forall_not_blank`).
-/

namespace RepoRouting

namespace Text

/-- Trimming leaves a text with no blank character as it is. -/
theorem trim_of_forall_not_blank {s : String} (h : ∀ c ∈ s.toList, isBlank c = false) :
    trim s = s := by
  have hdrop : ∀ l : List Char, (∀ c ∈ l, isBlank c = false) → l.dropWhile isBlank = l :=
    fun l hl => List.dropWhile_eq_self_iff.mpr fun hpos => by simp [hl _ (List.getElem_mem hpos)]
  have hlist : trimList s.toList = s.toList := by
    rw [trimList, hdrop _ h, hdrop _ (by simpa using h), List.reverse_reverse]
  rw [trim, hlist, String.ofList_toList]

/-- A decimal digit is not blank. -/
theorem isBlank_of_isDigit {c : Char} (h : c.isDigit = true) : isBlank c = false := by
  simp only [Char.isDigit, Bool.and_eq_true, decide_eq_true_eq] at h
  have hlo : 48 ≤ c.toNat := h.1
  have hhi : c.toNat ≤ 57 := h.2
  simp only [isBlank, Bool.or_eq_false_iff, Bool.and_eq_false_iff, decide_eq_false_iff_not,
    beq_eq_false_iff_ne, ne_eq]
  omega

end Text

/-- The reader's digit fold is core's `Nat.ofDigitChars` in base ten. -/
theorem foldl_minutes_eq_ofDigitChars (ds : List Char) :
    ds.foldl (fun acc c => acc * 10 + (c.toNat - 48)) 0 = Nat.ofDigitChars 10 ds 0 := by
  rw [Nat.ofDigitChars_eq_foldl]
  congr 1
  funext acc c
  rw [Nat.mul_comm]
  rfl

/-- What is left once the sign is stripped reads as a number of minutes exactly when it is
nonempty, all decimal digits, and of a value that fits in 32 bits. -/
private theorem unsignedMinutes_eq_some_iff (ds : List Char) (m : UInt32) :
    (if ds.isEmpty || !ds.all Char.isDigit then none
      else if ds.foldl (fun acc (c : Char) => acc * 10 + (c.toNat - 48)) 0 < UInt32.size then
        some (ds.foldl (fun acc (c : Char) => acc * 10 + (c.toNat - 48)) 0).toUInt32
      else none) = some m ↔
      ds ≠ [] ∧ (∀ c ∈ ds, c.isDigit = true) ∧ Nat.ofDigitChars 10 ds 0 = m.toNat := by
  rw [foldl_minutes_eq_ofDigitChars]
  by_cases hshape : ds ≠ [] ∧ ∀ c ∈ ds, c.isDigit = true
  · obtain ⟨hne, hdig⟩ := hshape
    have hguard : (ds.isEmpty || !ds.all Char.isDigit) = false := by
      simpa [List.isEmpty_iff, List.all_eq_true] using ⟨hne, hdig⟩
    rw [if_neg (by simp [hguard]), and_iff_right hne, and_iff_right hdig]
    constructor
    · intro h
      split at h
      · rename_i hlt
        cases h
        exact (UInt32.toNat_ofNat_of_lt' hlt).symm
      · cases h
    · intro hval
      rw [hval, if_pos m.toNat_lt]
      simp
  · have hguard : (ds.isEmpty || !ds.all Char.isDigit) = true := by
      cases hcheck : (ds.isEmpty || !ds.all Char.isDigit)
      · exact absurd (by simpa [List.isEmpty_iff, List.all_eq_true] using hcheck) hshape
      · rfl
    simp only [hguard, if_true, reduceCtorEq, false_iff]
    rintro ⟨hne, hdig, -⟩
    exact hshape ⟨hne, hdig⟩

/-- **Minutes as written.** A number of minutes is an optional `+` and at least one decimal
digit, whose value is the minutes. -/
theorem minutesOf?_eq_some_iff (cs : List Char) (m : UInt32) :
    minutesOf? cs = some m ↔
      ∃ (sign ds : List Char), (sign = [] ∨ sign = ['+']) ∧ ds ≠ [] ∧
        (∀ c ∈ ds, c.isDigit = true) ∧ cs = sign ++ ds ∧ Nat.ofDigitChars 10 ds 0 = m.toNat := by
  unfold minutesOf?
  split
  · -- a leading `+` is stripped: the digits are the rest
    rename_i rest
    rw [unsignedMinutes_eq_some_iff]
    constructor
    · rintro ⟨hne, hdig, hval⟩
      exact ⟨['+'], rest, .inr rfl, hne, hdig, rfl, hval⟩
    · rintro ⟨sign, ds, rfl | rfl, hne, hdig, hcs, hval⟩
      · -- without a sign the `+` would be a digit
        rw [List.nil_append] at hcs
        have hplus := hdig '+' (hcs ▸ List.mem_cons_self)
        exact absurd hplus (by decide)
      · rw [List.singleton_append, List.cons.injEq] at hcs
        rw [hcs.2]
        exact ⟨hne, hdig, hval⟩
  · -- no sign: the digits are the whole text
    rename_i hunsigned
    rw [unsignedMinutes_eq_some_iff]
    constructor
    · rintro ⟨hne, hdig, hval⟩
      exact ⟨[], cs, .inl rfl, hne, hdig, rfl, hval⟩
    · rintro ⟨sign, ds, rfl | rfl, hne, hdig, hcs, hval⟩
      · rw [List.nil_append] at hcs
        rw [hcs]
        exact ⟨hne, hdig, hval⟩
      · exact absurd hcs (hunsigned ds)

/-- The decimal digits of a number of minutes read back as that number. -/
theorem minutesOf?_toDigits (m : UInt32) : minutesOf? (Nat.toDigits 10 m.toNat) = some m := by
  have hdigits : ∀ c ∈ Nat.toDigits 10 m.toNat, c.isDigit = true :=
    fun c hc => Nat.isDigit_of_mem_toDigits (by decide) (by decide) hc
  exact (minutesOf?_eq_some_iff _ m).mpr
    ⟨[], _, .inl rfl, Nat.toDigits_ne_nil, hdigits, rfl, Nat.ofDigitChars_ten_toDigits⟩

namespace UpdatePolicy

theorem toList_render_interval (m : UInt32) :
    (render (.interval m)).toList =
      'i' :: 'n' :: 't' :: 'e' :: 'r' :: 'v' :: 'a' :: 'l' :: ':' :: Nat.toDigits 10 m.toNat := by
  simp [render, Nat.toList_repr]

/-- The word of an interval has no blank character. -/
theorem trim_render_interval (m : UInt32) :
    Text.trim (render (.interval m)) = render (.interval m) := by
  refine Text.trim_of_forall_not_blank fun c hc => ?_
  rw [render, String.toList_append, List.mem_append] at hc
  rcases hc with hword | hdigit
  · have hclear : ("interval:".toList.all fun c => !Text.isBlank c) = true := by decide
    simpa using List.all_eq_true.mp hclear c hword
  · rw [Nat.toString_eq_repr, Nat.toList_repr] at hdigit
    exact Text.isBlank_of_isDigit (Nat.isDigit_of_mem_toDigits (by decide) (by decide) hdigit)

/-- The characters of `interval:`. -/
theorem toList_interval :
    "interval:".toList = ['i', 'n', 't', 'e', 'r', 'v', 'a', 'l', ':'] := by
  simp

/-- A word is a policy's name, or `interval:` followed by a number of minutes. -/
theorem ofWord?_eq_some_iff (w : String) (u : UpdatePolicy) :
    ofWord? w = some u ↔
      (w = "always" ∧ u = .always) ∨ (w = "daily" ∧ u = .daily) ∨ (w = "never" ∧ u = .never) ∨
      ∃ rest m, w = "interval:" ++ String.ofList rest ∧ minutesOf? rest = some m ∧
        u = .interval m := by
  constructor
  · intro h
    unfold ofWord? at h
    split_ifs at h with halways hdaily hnever
    · cases h
      exact .inl ⟨beq_iff_eq.mp halways, rfl⟩
    · cases h
      exact .inr (.inl ⟨beq_iff_eq.mp hdaily, rfl⟩)
    · cases h
      exact .inr (.inr (.inl ⟨beq_iff_eq.mp hnever, rfl⟩))
    · split at h
      · rename_i rest hchars
        obtain ⟨m, hm, rfl⟩ := Option.map_eq_some_iff.mp h
        refine .inr (.inr (.inr ⟨rest, m, ?_, hm, rfl⟩))
        rw [← String.toList_inj, hchars, String.toList_append, toList_interval]
        simp
      · cases h
  · rintro (⟨rfl, rfl⟩ | ⟨rfl, rfl⟩ | ⟨rfl, rfl⟩ | ⟨rest, m, rfl, hm, rfl⟩)
    · rfl
    · rfl
    · rfl
    · -- a word that starts with `interval:` is none of the three names
      have hname : ∀ name ∈ ["always", "daily", "never"],
          ("interval:" ++ String.ofList rest == name) = false := by
        intro name hmem
        rw [beq_eq_false_iff_ne]
        intro heq
        have hchars := congrArg String.toList heq
        simp only [List.mem_cons, List.not_mem_nil, or_false] at hmem
        rcases hmem with rfl | rfl | rfl <;> simp at hchars
      unfold ofWord?
      simp [hname, toList_interval, hm]

/-- **Update policy words.** A text reads as an update policy exactly when, trimmed, it is
`always`, `daily`, `never`, or `interval:` then an optional `+` and at least one decimal digit
whose value fits in 32 bits; the policy is the one the word names. -/
theorem parse?_eq_some_iff (s : String) (u : UpdatePolicy) :
    parse? s = some u ↔
      (Text.trim s = "always" ∧ u = .always) ∨ (Text.trim s = "daily" ∧ u = .daily) ∨
      (Text.trim s = "never" ∧ u = .never) ∨
      ∃ (sign : String) (ds : List Char) (m : UInt32), (sign = "" ∨ sign = "+") ∧ ds ≠ [] ∧
        (∀ c ∈ ds, c.isDigit = true) ∧ Text.trim s = "interval:" ++ sign ++ String.ofList ds ∧
        Nat.ofDigitChars 10 ds 0 = m.toNat ∧ u = .interval m := by
  rw [parse?, ofWord?_eq_some_iff]
  -- only the interval words differ: the text after `interval:` is the sign and the digits
  refine or_congr_right (or_congr_right (or_congr_right ?_))
  constructor
  · rintro ⟨rest, m, hword, hm, rfl⟩
    obtain ⟨sign, ds, hsign, hne, hdig, rfl, hval⟩ := (minutesOf?_eq_some_iff rest m).mp hm
    refine ⟨String.ofList sign, ds, m, ?_, hne, hdig, ?_, hval, rfl⟩
    · rcases hsign with rfl | rfl <;> simp
    · rw [hword, String.ofList_append, String.append_assoc]
  · rintro ⟨sign, ds, m, hsign, hne, hdig, hword, hval, rfl⟩
    refine ⟨sign.toList ++ ds, m, ?_, ?_, rfl⟩
    · rw [hword, String.ofList_append, String.ofList_toList, String.append_assoc]
    · refine (minutesOf?_eq_some_iff _ m).mpr ⟨sign.toList, ds, ?_, hne, hdig, rfl, hval⟩
      rcases hsign with rfl | rfl <;> simp

example : parse? " interval:+007 " = some (.interval 7) := by decide

/-- Every update policy reads back from its word. -/
theorem parse?_render (u : UpdatePolicy) : parse? u.render = some u := by
  cases u with
  | always => rfl
  | daily => rfl
  | never => rfl
  | interval m =>
    rw [parse?, trim_render_interval]
    unfold ofWord?
    simp [← String.toList_inj, toList_render_interval, minutesOf?_toDigits]

end UpdatePolicy

/-- Every checksum policy reads back from its word. -/
theorem ChecksumPolicy.parse?_render (c : ChecksumPolicy) : parse? c.render = some c := by
  cases c <;> rfl

/-- **Checksum policy words.** A text reads as a checksum policy exactly when, trimmed, it is
`fail`, `warn` or `ignore`. -/
theorem ChecksumPolicy.parse?_eq_some_iff (s : String) (c : ChecksumPolicy) :
    parse? s = some c ↔
      (Text.trim s = "fail" ∧ c = .fail) ∨ (Text.trim s = "warn" ∧ c = .warn) ∨
      (Text.trim s = "ignore" ∧ c = .ignore) := by
  unfold parse?
  dsimp only
  split_ifs with hfail hwarn hignore
  · rw [beq_iff_eq.mp hfail]
    cases c <;> simp
  · rw [beq_iff_eq.mp hwarn]
    cases c <;> simp
  · rw [beq_iff_eq.mp hignore]
    cases c <;> simp
  · simp only [beq_iff_eq] at hfail hwarn hignore
    simp [hfail, hwarn, hignore]

theorem policy_words_read_back_exactly :
    (∀ s u, UpdatePolicy.parse? s = some u ↔
      (Text.trim s = "always" ∧ u = .always) ∨ (Text.trim s = "daily" ∧ u = .daily) ∨
      (Text.trim s = "never" ∧ u = .never) ∨
      ∃ (sign : String) (ds : List Char) (m : UInt32), (sign = "" ∨ sign = "+") ∧ ds ≠ [] ∧
        (∀ c ∈ ds, c.isDigit = true) ∧ Text.trim s = "interval:" ++ sign ++ String.ofList ds ∧
        Nat.ofDigitChars 10 ds 0 = m.toNat ∧ u = .interval m) ∧
    (∀ u : UpdatePolicy, UpdatePolicy.parse? u.render = some u) ∧
    (∀ s c, ChecksumPolicy.parse? s = some c ↔
      (Text.trim s = "fail" ∧ c = .fail) ∨ (Text.trim s = "warn" ∧ c = .warn) ∨
      (Text.trim s = "ignore" ∧ c = .ignore)) ∧
    (∀ c : ChecksumPolicy, ChecksumPolicy.parse? c.render = some c) :=
  ⟨UpdatePolicy.parse?_eq_some_iff, UpdatePolicy.parse?_render,
    ChecksumPolicy.parse?_eq_some_iff, ChecksumPolicy.parse?_render⟩

end RepoRouting
