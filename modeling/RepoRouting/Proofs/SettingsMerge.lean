import Mathlib.Data.List.Induction
import RepoRouting.Settings
/-!
# Merging settings

User settings are merged over global ones (`Settings.merge`): the local repository falls back
to the recessive one, `offline` is the dominant one's, and each list is the dominant list joined
by key with the recessive one (`appendNewBy`). A join walks the recessive entries in order and
appends one when no entry of the list grown so far has its key, so repeats inside the dominant
list stay and repeats inside the recessive list collapse to their first.

* `appendNewBy_eq_append_newByKey`: a join is the dominant list followed by the recessive
  entries whose key is neither a dominant key nor the key of an earlier recessive entry
  (`newByKey`);
* `find?_appendNewBy`: the first entry of a join with a given key is the dominant list's first
  one with that key, if there is one, and else the recessive list's;
* `appendNewBy_assoc`, `appendNewBy_self`: joins regroup freely, and a list joined with itself
  is the list;
* `merge_prefers_dominant`, `merge_assoc_idem`: the same for whole settings, whose proxies are
  keyed by their effective id.

The regrouping law rests on one fact: joining a list onto a fixed front commutes with
appending one more entry to it (`appendNewBy_appendNewBy_singleton`), because whether the
entry is new depends only on the set of keys, and the keys of a join are the keys of both
lists (`mem_map_key_appendNewBy`).
-/

namespace RepoRouting

section AppendNew

variable {α : Type} (key : α → String)

/-- The entries of `xs` whose key is neither among `keys` nor the key of an earlier entry of
`xs`, in the order of `xs`. -/
def newByKey (keys : List String) (xs : List α) : List α :=
  (xs.zipIdx.filter fun p =>
    decide (key p.1 ∉ keys ∧ key p.1 ∉ (xs.take p.2).map key)).map Prod.fst

variable {key} {acc xs ys : List α} {x : α}

/-! ## One entry at a time -/

theorem appendNewBy_nil (acc : List α) : appendNewBy key acc [] = acc := rfl

theorem appendNewBy_append :
    appendNewBy key acc (xs ++ ys) = appendNewBy key (appendNewBy key acc xs) ys :=
  List.foldl_append

theorem appendNewBy_cons :
    appendNewBy key acc (x :: xs) = appendNewBy key (appendNewBy key acc [x]) xs := rfl

/-- An entry whose key is already in the list is dropped. -/
theorem appendNewBy_singleton_of_mem (h : key x ∈ acc.map key) :
    appendNewBy key acc [x] = acc := by
  obtain ⟨y, hy, hxy⟩ := List.mem_map.mp h
  have hany : acc.any (fun y => key y == key x) = true := List.any_eq_true.mpr ⟨y, hy, by simp [hxy]⟩
  rw [appendNewBy, List.foldl_cons, List.foldl_nil, if_pos hany]

/-- An entry with a new key is appended. -/
theorem appendNewBy_singleton_of_not_mem (h : key x ∉ acc.map key) :
    appendNewBy key acc [x] = acc ++ [x] := by
  have hany : acc.any (fun y => key y == key x) = false := by
    simpa using fun y hy hxy => h (List.mem_map.mpr ⟨y, hy, hxy⟩)
  rw [appendNewBy, List.foldl_cons, List.foldl_nil, if_neg (by simp [hany])]

/-- **Keys.** The keys of a join are the keys of both lists. -/
theorem mem_map_key_appendNewBy {k : String} :
    k ∈ (appendNewBy key acc xs).map key ↔ k ∈ acc.map key ∨ k ∈ xs.map key := by
  induction xs generalizing acc with
  | nil => simp [appendNewBy_nil]
  | cons x xs ih =>
    rw [appendNewBy_cons, ih, List.map_cons, List.mem_cons]
    by_cases hx : key x ∈ acc.map key
    · -- the key of the dropped entry was there already
      rw [appendNewBy_singleton_of_mem hx]
      by_cases hk : k = key x
      · subst hk
        simp [hx]
      · simp [hk]
    · rw [appendNewBy_singleton_of_not_mem hx, List.map_append, List.mem_append]
      simp [or_assoc]

/-- A join adds nothing when every key of the recessive list is already present. -/
theorem appendNewBy_of_forall_mem (h : ∀ x ∈ xs, key x ∈ acc.map key) :
    appendNewBy key acc xs = acc := by
  induction xs with
  | nil => rfl
  | cons x xs ih =>
    rw [appendNewBy_cons, appendNewBy_singleton_of_mem (h x List.mem_cons_self)]
    exact ih fun y hy => h y (List.mem_cons_of_mem x hy)

/-- A list joined with itself is the list. -/
theorem appendNewBy_self (acc : List α) : appendNewBy key acc acc = acc :=
  appendNewBy_of_forall_mem fun _ hx => List.mem_map_of_mem hx

/-! ## The join as a filter -/

theorem newByKey_nil (keys : List String) : newByKey key keys [] = [] := rfl

/-- The recessive entries kept from `xs ++ [x]`: those kept from `xs`, and `x` when its key
is new to `keys` and to `xs`. -/
theorem newByKey_append_singleton (keys : List String) (xs : List α) (x : α) :
    newByKey key keys (xs ++ [x]) =
      newByKey key keys xs ++ if key x ∉ keys ∧ key x ∉ xs.map key then [x] else [] := by
  -- an entry of `xs` sees the same entries before it in `xs ++ [x]`
  have hfront : (xs.zipIdx.filter fun p =>
      decide (key p.1 ∉ keys ∧ key p.1 ∉ ((xs ++ [x]).take p.2).map key)) =
      xs.zipIdx.filter fun p => decide (key p.1 ∉ keys ∧ key p.1 ∉ (xs.take p.2).map key) := by
    refine List.filter_congr fun p hp => ?_
    have hlt : p.2 < xs.length := (List.mem_zipIdx' hp).1
    rw [List.take_append_of_le_length (Nat.le_of_lt hlt)]
  unfold newByKey
  rw [List.zipIdx_append, List.filter_append, hfront, List.map_append, Nat.zero_add,
    List.zipIdx_singleton]
  congr 1
  simp only [List.filter_cons, List.filter_nil, List.take_left, decide_eq_true_eq]
  by_cases hnew : key x ∉ keys ∧ key x ∉ xs.map key
  · rw [if_pos hnew, if_pos hnew]
    rfl
  · rw [if_neg hnew, if_neg hnew]
    rfl

/-- **The join.** The dominant list, then the recessive entries whose key is neither a
dominant key nor the key of an earlier recessive entry. -/
theorem appendNewBy_eq_append_newByKey (acc xs : List α) :
    appendNewBy key acc xs = acc ++ newByKey key (acc.map key) xs := by
  induction xs using List.reverseRecOn with
  | nil => rw [newByKey_nil, List.append_nil, appendNewBy_nil]
  | append_singleton xs x ih =>
    rw [appendNewBy_append, ih, newByKey_append_singleton]
    -- `x` is new to the grown list exactly when it is new to the dominant and earlier keys
    have hkeys : key x ∈ (acc ++ newByKey key (acc.map key) xs).map key ↔
        key x ∈ acc.map key ∨ key x ∈ xs.map key := by
      rw [← ih, mem_map_key_appendNewBy]
    by_cases hold : key x ∈ acc.map key ∨ key x ∈ xs.map key
    · rw [appendNewBy_singleton_of_mem (hkeys.mpr hold), if_neg fun h => hold.elim h.1 h.2,
        List.append_nil]
    · have hout : key x ∉ (acc ++ newByKey key (acc.map key) xs).map key :=
        fun h => hold (hkeys.mp h)
      rw [appendNewBy_singleton_of_not_mem hout, if_pos (not_or.mp hold), List.append_assoc]

/-- **First by key.** The first entry of a join with a key is the dominant list's, else the
recessive list's. -/
theorem find?_appendNewBy (k : String) (acc xs : List α) :
    (appendNewBy key acc xs).find? (fun y => key y == k) =
      (acc.find? fun y => key y == k).or (xs.find? fun y => key y == k) := by
  induction xs generalizing acc with
  | nil => simp [appendNewBy_nil]
  | cons x xs ih =>
    rw [appendNewBy_cons]
    by_cases hx : key x ∈ acc.map key
    · rw [appendNewBy_singleton_of_mem hx, ih]
      by_cases hk : key x = k
      · -- the dominant list already has an entry with the key
        have hsome : (acc.find? fun y => key y == k).isSome := by
          obtain ⟨y, hy, hxy⟩ := List.mem_map.mp hx
          exact List.find?_isSome.mpr ⟨y, hy, by simp [hxy, hk]⟩
        obtain ⟨y, hy⟩ := Option.isSome_iff_exists.mp hsome
        simp [hy]
      · simp [hk]
    · rw [appendNewBy_singleton_of_not_mem hx, ih, List.find?_append, Option.or_assoc,
        ← List.find?_append, List.singleton_append]

/-! ## Regrouping -/

/-- Joining onto a fixed front commutes with appending one entry to the recessive list. -/
theorem appendNewBy_appendNewBy_singleton (front acc : List α) (x : α) :
    appendNewBy key front (appendNewBy key acc [x]) =
      appendNewBy key (appendNewBy key front acc) [x] := by
  by_cases hx : key x ∈ acc.map key
  · have hjoin : key x ∈ (appendNewBy key front acc).map key :=
      mem_map_key_appendNewBy.mpr (.inr hx)
    rw [appendNewBy_singleton_of_mem hx, appendNewBy_singleton_of_mem hjoin]
  · rw [appendNewBy_singleton_of_not_mem hx, appendNewBy_append]

/-- **Regrouping.** Joins are associative. -/
theorem appendNewBy_assoc (front acc xs : List α) :
    appendNewBy key (appendNewBy key front acc) xs =
      appendNewBy key front (appendNewBy key acc xs) := by
  -- induction on the last list, the middle one growing by its head at each step
  induction xs generalizing acc with
  | nil => rfl
  | cons x xs ih =>
    rw [appendNewBy_cons, ← appendNewBy_appendNewBy_singleton, ih]
    rfl

end AppendNew

/-! ## Settings -/

namespace Settings

variable (u g : Settings)

theorem merge_proxies :
    (u.merge g).proxies = appendNewBy SettingsProxy.key u.proxies g.proxies := rfl

/-- The stored credentials of the merge are the dominant ones when they exist. -/
theorem server?_merge (k : String) : (u.merge g).server? k = (u.server? k).or (g.server? k) :=
  find?_appendNewBy k u.servers g.servers

/-- An active dominant proxy stays the proxy in effect. -/
theorem activeProxy?_merge_of_eq_some {p : Proxy} (h : u.activeProxy? = some p) :
    (u.merge g).activeProxy? = some p := by
  obtain ⟨sp, hsp, rfl⟩ := Option.map_eq_some_iff.mp h
  rw [activeProxy?, merge_proxies, appendNewBy_eq_append_newByKey, List.find?_append, hsp]
  rfl

/-- **Merging.** The dominant settings win: the local repository falls back to the recessive
one, `offline` is the dominant one's, each list is the dominant list followed by the recessive
entries with a key neither of them had before, the first entry with a key is the dominant
one's if it has one, and a dominant active proxy stays in effect. -/
theorem merge_prefers_dominant :
    (u.merge g).localRepository = u.localRepository.or g.localRepository ∧
    (u.merge g).offline = u.offline ∧
    (u.merge g).mirrors = u.mirrors ++ newByKey Mirror.id (u.mirrors.map Mirror.id) g.mirrors ∧
    (u.merge g).servers = u.servers ++ newByKey Server.id (u.servers.map Server.id) g.servers ∧
    (u.merge g).proxies = u.proxies ++
      newByKey SettingsProxy.key (u.proxies.map SettingsProxy.key) g.proxies ∧
    (∀ k, (u.merge g).mirrors.find? (fun m => m.id == k) =
      (u.mirrors.find? fun m => m.id == k).or (g.mirrors.find? fun m => m.id == k)) ∧
    (∀ k, (u.merge g).server? k = (u.server? k).or (g.server? k)) ∧
    (∀ k, (u.merge g).proxies.find? (fun p => p.key == k) =
      (u.proxies.find? fun p => p.key == k).or (g.proxies.find? fun p => p.key == k)) ∧
    ∀ p, u.activeProxy? = some p → (u.merge g).activeProxy? = some p :=
  ⟨rfl, rfl, appendNewBy_eq_append_newByKey _ _, appendNewBy_eq_append_newByKey _ _,
    appendNewBy_eq_append_newByKey _ _, fun k => find?_appendNewBy k _ _, server?_merge u g,
    fun k => find?_appendNewBy k _ _, fun _ => activeProxy?_merge_of_eq_some u g⟩

/-- **Merge laws.** Merging is associative, the empty settings are a right identity, and
merging settings with themselves changes nothing. -/
theorem merge_assoc_idem (a b c : Settings) :
    (a.merge b).merge c = a.merge (b.merge c) ∧ a.merge {} = a ∧ a.merge a = a := by
  refine ⟨?_, ?_, ?_⟩
  · simp only [merge, Option.or_assoc, appendNewBy_assoc]
  · simp only [merge, Option.or_none, appendNewBy_nil]
  · simp only [merge, Option.or_self, appendNewBy_self]

end Settings

end RepoRouting
