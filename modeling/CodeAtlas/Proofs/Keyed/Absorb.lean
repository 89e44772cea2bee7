import CodeAtlas.Proofs.Keyed.Merge

/-!
# Entries that were merged before

A list with one entry for each key is known by its keys and by the entry of each. So entries that were
merged before change nothing when they are merged once more, with or without others after them, and
entries may be merged among themselves first.
-/

namespace CodeAtlas

namespace Keyed

variable {α κ : Type} [DecidableEq κ] (key : α → κ)

theorem eq_of_keys_eq {xs ys : List α} (hnd : (xs.map key).Nodup) (hkeys : xs.map key = ys.map key)
    (hlookup : ∀ k, lookup? key k xs = lookup? key k ys) : xs = ys := by
  calc xs = (xs.map key).filterMap fun k => lookup? key k xs := (filterMap_lookup? key hnd).symm
    _ = (ys.map key).filterMap fun k => lookup? key k ys := by simp only [hkeys, hlookup]
    _ = ys := filterMap_lookup? key (hkeys ▸ hnd)

theorem last?_of_nodup {xs : List α} (hnd : (xs.map key).Nodup) (k : κ) :
    last? key k xs = lookup? key k xs := by
  rw [last?, filter_key_eq key hnd]
  cases lookup? key k xs <;> rfl

theorem mergeAll_again {xs : List α} (hnd : (xs.map key).Nodup) (ys : List α) :
    mergeAll key (mergeAll key xs ys) ys = mergeAll key xs ys := by
  have hmerged := nodup_keys_mergeAll key hnd ys
  apply eq_of_keys_eq key (nodup_keys_mergeAll key hmerged ys)
  · rw [keys_mergeAll key hmerged, eraseDups_append_of_subset, eraseDups_of_nodup hmerged]
    intro k hk
    rw [keys_mergeAll key hnd, List.mem_eraseDups]
    exact List.mem_append_right _ hk
  · intro k
    rw [lookup?_mergeAll, lookup?_mergeAll]
    cases last? key k ys <;> rfl

/-- What was begun is absorbed by the whole. -/
theorem mergeAll_resume {xs : List α} (hnd : (xs.map key).Nodup) {ys zs : List α} (h : ys <+: zs) :
    mergeAll key (mergeAll key xs ys) zs = mergeAll key xs zs := by
  obtain ⟨rest, rfl⟩ := h
  rw [mergeAll_append, mergeAll_append, mergeAll_again key hnd]

theorem mergeAll_mergeAll_nil {xs : List α} (hnd : (xs.map key).Nodup) (ys : List α) :
    mergeAll key xs (mergeAll key [] ys) = mergeAll key xs ys := by
  have hnil : (([] : List α).map key).Nodup := List.nodup_nil
  apply eq_of_keys_eq key (nodup_keys_mergeAll key hnd _)
  · rw [keys_mergeAll key hnd, keys_mergeAll_nil, eraseDups_append_eraseDups, keys_mergeAll key hnd]
  · intro k
    rw [lookup?_mergeAll, lookup?_mergeAll, last?_of_nodup key (nodup_keys_mergeAll key hnil ys),
      lookup?_mergeAll, lookup?, List.find?_nil, Option.or_none]

theorem mergeAll_nil_of_nodup {ys : List α} (hnd : (ys.map key).Nodup) :
    mergeAll key [] ys = ys := by
  have hnil : (([] : List α).map key).Nodup := List.nodup_nil
  apply eq_of_keys_eq key (nodup_keys_mergeAll key hnil ys)
  · rw [keys_mergeAll_nil, eraseDups_of_nodup hnd]
  · intro k
    rw [lookup?_mergeAll, lookup?, List.find?_nil, Option.or_none, last?_of_nodup key hnd]

theorem keepAll_append (xs ys zs : List α) :
    keepAll key xs (ys ++ zs) = keepAll key (keepAll key xs ys) zs := List.foldl_append

theorem mem_keys_keepAll (xs ys : List α) (k : κ) :
    k ∈ (keepAll key xs ys).map key ↔ k ∈ xs.map key ∨ k ∈ ys.map key := by
  induction ys using List.reverseRecOn with
  | nil => simp [keepAll]
  | append_singleton ys y ih =>
    rw [keepAll_concat, mem_keys_keep, ih, List.map_append, List.mem_append, List.map_singleton,
      List.mem_singleton, or_assoc]

theorem keepAll_of_subset {xs ys : List α} (h : ys.map key ⊆ xs.map key) :
    keepAll key xs ys = xs := by
  induction ys with
  | nil => rfl
  | cons y ys ih =>
    rw [List.map_cons, List.cons_subset] at h
    rw [keepAll, List.foldl_cons, keep_of_mem key h.1]
    exact ih h.2

theorem keepAll_resume (xs : List α) {ys zs : List α} (h : ys <+: zs) :
    keepAll key (keepAll key xs ys) zs = keepAll key xs zs := by
  obtain ⟨rest, rfl⟩ := h
  have hsub : ys.map key ⊆ (keepAll key xs ys).map key := by
    intro k hk
    exact (mem_keys_keepAll key xs ys k).mpr (Or.inr hk)
  rw [keepAll_append, keepAll_append, keepAll_of_subset key hsub]

theorem keepAll_nil_of_nodup {ys : List α} (hnd : (ys.map key).Nodup) :
    keepAll key [] ys = ys := by
  induction ys using List.reverseRecOn with
  | nil => rfl
  | append_singleton ys y ih =>
    rw [List.map_append, List.map_singleton, List.nodup_append] at hnd
    have hy : key y ∉ ys.map key := fun hm => hnd.2.2 _ hm _ List.mem_cons_self rfl
    rw [keepAll_concat, ih hnd.1, keep_of_not_mem key hy]

end Keyed

end CodeAtlas
