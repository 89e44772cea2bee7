import Mathlib.Data.List.Nodup
import Mathlib.Data.List.Sort

/-!
# Entries in the order of their keys

A list of pairs is sorted by the first parts. Where no key stands twice, neither a lookup nor the sorted
list shows in which order the entries stood before.
-/

namespace CodeAtlas

namespace Keyed

variable {κ β : Type}

section Lookup

variable [DecidableEq κ]

theorem lookup_eq_some_iff {es : List (κ × β)} (hnd : (es.map Prod.fst).Nodup) (key : κ) (value : β) :
    es.lookup key = some value ↔ (key, value) ∈ es := by
  induction es with
  | nil => simp
  | cons e es ih =>
    obtain ⟨k, v⟩ := e
    rw [List.map_cons, List.nodup_cons] at hnd
    by_cases hk : key = k
    · subst hk
      have hout : (key, value) ∉ es := fun hm => hnd.1 (List.mem_map.mpr ⟨_, hm, rfl⟩)
      simp [hout, eq_comm]
    · have hne : (key == k) = false := by simpa using hk
      rw [List.lookup_cons, hne, List.mem_cons]
      simp [hk, ih hnd.2]

theorem lookup_eq_none_of_not_mem {es : List (κ × β)} {key : κ} (h : key ∉ es.map Prod.fst) :
    es.lookup key = none := by
  rw [List.lookup_eq_none_iff]
  intro e he
  have hne : key ≠ e.1 := by
    rintro rfl
    exact h (List.mem_map_of_mem he)
  simpa using hne

theorem perm_of_lookup_eq {es fs : List (κ × β)} (hes : (es.map Prod.fst).Nodup)
    (hfs : (fs.map Prod.fst).Nodup) (h : ∀ key, es.lookup key = fs.lookup key) : es.Perm fs := by
  rw [List.perm_ext_iff_of_nodup (List.Nodup.of_map _ hes) (List.Nodup.of_map _ hfs)]
  rintro ⟨key, value⟩
  rw [← lookup_eq_some_iff hes, ← lookup_eq_some_iff hfs, h]

end Lookup

variable [LinearOrder κ]

theorem le_fst_trans (a b c : κ × β) (hab : decide (a.1 ≤ b.1)) (hbc : decide (b.1 ≤ c.1)) :
    decide (a.1 ≤ c.1) :=
  decide_eq_true (le_trans (of_decide_eq_true hab) (of_decide_eq_true hbc))

theorem le_fst_total (a b : κ × β) : (decide (a.1 ≤ b.1) || decide (b.1 ≤ a.1)) = true := by
  simpa only [Bool.or_eq_true, decide_eq_true_iff] using le_total a.1 b.1

theorem pairwise_mergeSort_fst (es : List (κ × β)) :
    (es.mergeSort fun a b => decide (a.1 ≤ b.1)).Pairwise fun a b => a.1 ≤ b.1 :=
  (List.pairwise_mergeSort le_fst_trans le_fst_total es).imp of_decide_eq_true

/-- Entries that stand in order before sorting stand in the same order after it. -/
theorem filter_mergeSort_fst {p : κ × β → Bool} {es : List (κ × β)}
    (h : (es.filter p).Pairwise fun a b => a.1 ≤ b.1) :
    (es.mergeSort fun a b => decide (a.1 ≤ b.1)).filter p = es.filter p := by
  have hsub : (es.filter p).Sublist (es.mergeSort fun a b => decide (a.1 ≤ b.1)) :=
    List.sublist_mergeSort le_fst_trans le_fst_total (h.imp decide_eq_true) List.filter_sublist
  have hperm := (List.mergeSort_perm es fun a b => decide (a.1 ≤ b.1)).filter p
  have hkept := hsub.filter p
  simp only [List.filter_filter, Bool.and_self] at hkept
  exact (hkept.eq_of_length hperm.length_eq.symm).symm

theorem mergeSort_fst_eq_of_perm {es fs : List (κ × β)} (hes : (es.map Prod.fst).Nodup)
    (h : es.Perm fs) : (es.mergeSort fun a b => decide (a.1 ≤ b.1)) =
      fs.mergeSort fun a b => decide (a.1 ≤ b.1) := by
  have hperm := (List.mergeSort_perm es fun a b => decide (a.1 ≤ b.1)).trans
    (h.trans (List.mergeSort_perm fs fun a b => decide (a.1 ≤ b.1)).symm)
  refine hperm.eq_of_pairwise ?_ (pairwise_mergeSort_fst es) (pairwise_mergeSort_fst fs)
  intro a b ha hb hab hba
  -- Two entries with one key are one entry, so the order of keys is an order of entries.
  have ha' : a ∈ es := (List.mergeSort_perm _ _).mem_iff.mp ha
  have hb' : b ∈ es := h.mem_iff.mpr ((List.mergeSort_perm _ _).mem_iff.mp hb)
  exact List.inj_on_of_nodup_map hes ha' hb' (le_antisymm hab hba)

end Keyed

end CodeAtlas
