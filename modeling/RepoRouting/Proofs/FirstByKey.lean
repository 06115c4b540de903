import RepoRouting.Collect

/-!
# Keeping the first entry of each key

`firstByKey key seen l` walks `l` once and keeps an entry when neither `seen` nor an entry
kept before it has its key. Collection runs it twice: over the settled ids of the prepared
entries, and over the ids the mirrors hand out.

* `firstByKey_eq_eraseDupsBy`: from an empty `seen` it is core's `List.eraseDupsBy` with
  "same key" as the comparison, the list of first occurrences;
* `map_key_firstByKey_nil`: the kept keys are the keys of `l` with repeats erased, in the order
  they first appear, and they are pairwise distinct (`nodup_map_key_firstByKey`);
* `find?_of_mem_firstByKey`: a kept entry is the first entry of `l` with its key;
* `firstByKey_map`: keeping by key commutes with mapping the entries.
-/

namespace RepoRouting

variable {α β : Type} (key : α → String)

theorem firstByKey_cons_of_seen {seen : List String} {x : α} {l : List α}
    (h : key x ∈ seen) : firstByKey key seen (x :: l) = firstByKey key seen l := by
  simp [firstByKey, h]

theorem firstByKey_cons_of_unseen {seen : List String} {x : α} {l : List α}
    (h : key x ∉ seen) : firstByKey key seen (x :: l) = x :: firstByKey key (key x :: seen) l := by
  simp [firstByKey, h]

/-- A kept entry comes from the list and its key was not seen before. -/
theorem mem_firstByKey {seen : List String} {l : List α} {x : α}
    (h : x ∈ firstByKey key seen l) : x ∈ l ∧ key x ∉ seen := by
  induction l generalizing seen with
  | nil => simp [firstByKey] at h
  | cons y l ih =>
    by_cases hy : key y ∈ seen
    · rw [firstByKey_cons_of_seen key hy] at h
      exact ⟨List.mem_cons_of_mem y (ih h).1, (ih h).2⟩
    · rw [firstByKey_cons_of_unseen key hy, List.mem_cons] at h
      rcases h with rfl | h
      · exact ⟨List.mem_cons_self, hy⟩
      · obtain ⟨hl, hs⟩ := ih h
        exact ⟨List.mem_cons_of_mem y hl, fun h' => hs (List.mem_cons_of_mem _ h')⟩

/-- Keeping by key commutes with mapping the entries, the key read through the map. -/
theorem firstByKey_map (g : β → α) (seen : List String) (l : List β) :
    firstByKey key seen (l.map g) = (firstByKey (key ∘ g) seen l).map g := by
  induction l generalizing seen with
  | nil => rfl
  | cons y l ih =>
    by_cases hy : key (g y) ∈ seen
    · rw [List.map_cons, firstByKey_cons_of_seen key hy,
        firstByKey_cons_of_seen (key ∘ g) hy, ih]
    · rw [List.map_cons, firstByKey_cons_of_unseen key hy,
        firstByKey_cons_of_unseen (key ∘ g) hy, ih, List.map_cons]
      rfl

/-- With `seen` given, the kept entries are the first occurrences among the entries whose
key is not in `seen`. -/
theorem firstByKey_eq_filter_eraseDupsBy (seen : List String) (l : List α) :
    firstByKey key seen l =
      (l.filter fun x => !seen.contains (key x)).eraseDupsBy (fun a b => key a == key b) := by
  induction l generalizing seen with
  | nil => rfl
  | cons y l ih =>
    by_cases hy : key y ∈ seen
    · rw [firstByKey_cons_of_seen key hy, ih, List.filter_cons_of_neg (by simpa using hy)]
    · rw [firstByKey_cons_of_unseen key hy, ih, List.filter_cons_of_pos (by simpa using hy),
        List.eraseDupsBy_cons, List.filter_filter]
      -- an entry is new to `key y :: seen` when it is new to `seen` and its key is not `key y`
      refine congrArg (y :: List.eraseDupsBy _ ·) (List.filter_congr fun x _ => ?_)
      by_cases hx : key x = key y <;> simp [hx]

/-- From nothing seen, the kept entries are core's first occurrences by key. -/
theorem firstByKey_eq_eraseDupsBy (l : List α) :
    firstByKey key [] l = l.eraseDupsBy (fun a b => key a == key b) := by
  rw [firstByKey_eq_filter_eraseDupsBy, List.filter_eq_self.mpr (by simp)]

/-- The kept keys are the keys not in `seen`, each once, in the order they first appear. -/
theorem map_key_firstByKey (seen : List String) (l : List α) :
    (firstByKey key seen l).map key =
      ((l.map key).filter fun a => !seen.contains a).eraseDups := by
  induction l generalizing seen with
  | nil => rfl
  | cons y l ih =>
    by_cases hy : key y ∈ seen
    · rw [firstByKey_cons_of_seen key hy, ih, List.map_cons,
        List.filter_cons_of_neg (by simpa using hy)]
    · rw [firstByKey_cons_of_unseen key hy, List.map_cons, ih, List.map_cons,
        List.filter_cons_of_pos (by simpa using hy), List.eraseDups_cons, List.filter_filter]
      refine congrArg (key y :: List.eraseDups ·) (List.filter_congr fun a _ => ?_)
      by_cases ha : a = key y <;> simp [ha]

theorem map_key_firstByKey_nil (l : List α) :
    (firstByKey key [] l).map key = (l.map key).eraseDups := by
  rw [map_key_firstByKey, List.filter_eq_self.mpr (by simp)]

/-- No two kept entries share a key. -/
theorem nodup_map_key_firstByKey (seen : List String) (l : List α) :
    ((firstByKey key seen l).map key).Nodup := by
  induction l generalizing seen with
  | nil => exact List.nodup_nil
  | cons y l ih =>
    by_cases hy : key y ∈ seen
    · rw [firstByKey_cons_of_seen key hy]
      exact ih seen
    · rw [firstByKey_cons_of_unseen key hy, List.map_cons, List.nodup_cons]
      refine ⟨fun hmem => ?_, ih _⟩
      -- a later kept entry was checked against `key y`, which was already seen then
      obtain ⟨x, hx, hxy⟩ := List.mem_map.mp hmem
      exact (mem_firstByKey key hx).2 (hxy ▸ List.mem_cons_self)

/-- A kept entry is the first entry of the list with its key. -/
theorem find?_of_mem_firstByKey {seen : List String} {l : List α} {x : α}
    (h : x ∈ firstByKey key seen l) : l.find? (fun y => key y == key x) = some x := by
  induction l generalizing seen with
  | nil => simp [firstByKey] at h
  | cons y l ih =>
    have hx : key x ∉ seen := (mem_firstByKey key h).2
    by_cases hy : key y ∈ seen
    · rw [firstByKey_cons_of_seen key hy] at h
      have hne : key y ≠ key x := fun he => hx (he ▸ hy)
      rw [List.find?_cons_of_neg (by simpa using hne), ih h]
    · rw [firstByKey_cons_of_unseen key hy, List.mem_cons] at h
      rcases h with rfl | h
      · exact List.find?_cons_of_pos (by simp)
      · have hne : key y ≠ key x := fun he =>
          (mem_firstByKey key h).2 (he ▸ List.mem_cons_self)
        rw [List.find?_cons_of_neg (by simpa using hne), ih h]

end RepoRouting
