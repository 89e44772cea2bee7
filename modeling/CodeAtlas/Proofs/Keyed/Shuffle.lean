import CodeAtlas.Proofs.Keyed.Merge

/-!
# Interleaved lists

The entries of several lists in one order, each beside the index of its list. What such an order
leaves of the entries of one key does not depend on the other keys, so a key of one list only ends as
that list leaves it.
-/

namespace CodeAtlas

namespace Keyed

variable {ι α β : Type} [DecidableEq ι]

def part (i : ι) (xs : List (ι × α)) : List α := (xs.filter fun x => x.1 = i).map (·.2)

theorem part_cons_self (i : ι) (x : α) (xs : List (ι × α)) :
    part i ((i, x) :: xs) = x :: part i xs := by
  simp [part]

theorem part_cons_of_ne {i j : ι} (h : j ≠ i) (x : α) (xs : List (ι × α)) :
    part i ((j, x) :: xs) = part i xs := by
  simp [part, h]

theorem part_append (i : ι) (xs ys : List (ι × α)) :
    part i (xs ++ ys) = part i xs ++ part i ys := by
  simp [part]

theorem mem_map_snd_iff (xs : List (ι × α)) (x : α) : x ∈ xs.map (·.2) ↔ ∃ i, x ∈ part i xs := by
  simp [part]

def choose (f : α → Option β) (xs : List (ι × α)) : List (ι × β) :=
  xs.filterMap fun x => (f x.2).map (Prod.mk x.1)

omit [DecidableEq ι] in
theorem map_snd_choose (f : α → Option β) (xs : List (ι × α)) :
    (choose f xs).map (·.2) = (xs.map (·.2)).filterMap f := by
  rw [choose, List.map_filterMap, List.filterMap_map]
  apply List.filterMap_congr
  intro x _
  cases hx : f x.2 <;> simp [hx]

theorem part_choose (i : ι) (f : α → Option β) (xs : List (ι × α)) :
    part i (choose f xs) = (part i xs).filterMap f := by
  induction xs with
  | nil => rfl
  | cons x xs ih =>
    obtain ⟨j, x⟩ := x
    by_cases hj : j = i
    · subst hj
      rw [part_cons_self, List.filterMap_cons, choose, List.filterMap_cons, ← choose]
      cases f x with
      | none => exact ih
      | some y =>
        change part j ((j, y) :: choose f xs) = y :: (part j xs).filterMap f
        rw [part_cons_self, ih]
    · rw [part_cons_of_ne hj, choose, List.filterMap_cons, ← choose]
      cases f x with
      | none => exact ih
      | some y =>
        change part i ((j, y) :: choose f xs) = (part i xs).filterMap f
        rw [part_cons_of_ne hj, ih]

variable {κ : Type} [DecidableEq κ] (key : α → κ)

theorem last?_map_snd {i : ι} {k : κ} {xs : List (ι × α)}
    (hothers : ∀ j, j ≠ i → k ∉ (part j xs).map key) :
    last? key k (xs.map (·.2)) = last? key k (part i xs) := by
  induction xs with
  | nil => rfl
  | cons x xs ih =>
    obtain ⟨j, x⟩ := x
    have hrest : ∀ j', j' ≠ i → k ∉ (part j' xs).map key := by
      intro j' hj' hk
      apply hothers j' hj'
      by_cases hjj : j = j'
      · rw [hjj, part_cons_self, List.map_cons]
        exact List.mem_cons_of_mem _ hk
      · rwa [part_cons_of_ne hjj]
    rw [List.map_cons, last?_cons, ih hrest]
    by_cases hj : j = i
    · rw [hj, part_cons_self, last?_cons]
    · have hx : key x ≠ k := by
        intro hx
        apply hothers j hj
        rw [part_cons_self, List.map_cons, hx]
        exact List.mem_cons_self
      rw [part_cons_of_ne hj, if_neg hx, Option.or_none]

/-- What came of merging lists into what was there before, in an order that is not known. -/
structure Merged (before after : List α) (lists : ι → List α) : Prop where
  keys_nodup : (after.map key).Nodup
  mem_keys_iff : ∀ k, k ∈ after.map key ↔ k ∈ before.map key ∨ ∃ i, k ∈ (lists i).map key
  /-- A key of one list only has the last entry there. -/
  lookup_of_one : ∀ k i, k ∈ (lists i).map key → (∀ j, j ≠ i → k ∉ (lists j).map key) →
    lookup? key k after = last? key k (lists i)
  lookup_of_some : ∀ k, (∃ i, k ∈ (lists i).map key) →
    ∃ i, ∃ x ∈ lists i, key x = k ∧ lookup? key k after = some x
  lookup_of_none : ∀ k, (∀ i, k ∉ (lists i).map key) → lookup? key k after = lookup? key k before

omit [DecidableEq κ] in
theorem mem_keys_iff_part (xs : List (ι × α)) (k : κ) :
    k ∈ (xs.map (·.2)).map key ↔ ∃ i, k ∈ (part i xs).map key := by
  simp only [List.mem_map (f := key), mem_map_snd_iff]
  constructor
  · rintro ⟨x, ⟨i, hx⟩, hk⟩
    exact ⟨i, x, hx, hk⟩
  · rintro ⟨i, x, hx, hk⟩
    exact ⟨x, ⟨i, hx⟩, hk⟩

theorem merged_mergeAll {before : List α} (h : (before.map key).Nodup) (xs : List (ι × α)) :
    Merged key before (mergeAll key before (xs.map (·.2))) fun i => part i xs := by
  constructor
  case keys_nodup => exact nodup_keys_mergeAll key h _
  case mem_keys_iff =>
    intro k
    rw [keys_mergeAll key h, List.mem_eraseDups, List.mem_append, mem_keys_iff_part]
  case lookup_of_one =>
    intro k i hk hothers
    obtain ⟨x, hx⟩ := Option.isSome_iff_exists.mp ((last?_isSome_iff key (part i xs) k).mpr hk)
    rw [lookup?_mergeAll, last?_map_snd key hothers, hx, Option.some_or]
  case lookup_of_some =>
    intro k hk
    rw [← mem_keys_iff_part, ← last?_isSome_iff, Option.isSome_iff_exists] at hk
    obtain ⟨x, hx⟩ := hk
    obtain ⟨hmem, hkey⟩ := mem_of_last? key hx
    obtain ⟨i, hi⟩ := (mem_map_snd_iff xs x).mp hmem
    refine ⟨i, x, hi, hkey, ?_⟩
    rw [lookup?_mergeAll, hx, Option.some_or]
  case lookup_of_none =>
    intro k hk
    have hlast : last? key k (xs.map (·.2)) = none := by
      rw [← Option.not_isSome_iff_eq_none, last?_isSome_iff, mem_keys_iff_part]
      rintro ⟨i, hi⟩
      exact hk i hi
    rw [lookup?_mergeAll, hlast, Option.none_or]

theorem merged_filterMap {key : β → κ} {before : List β} (h : (before.map key).Nodup)
    (f : α → Option β) (xs : List (ι × α)) :
    Merged key before (mergeAll key before ((xs.map (·.2)).filterMap f))
      fun i => (part i xs).filterMap f := by
  have hmerged := merged_mergeAll key h (choose f xs)
  simp only [map_snd_choose, part_choose] at hmerged
  exact hmerged

end Keyed

end CodeAtlas
