import CodeAtlas.Proofs.Keyed.Merge
import Std.Data.HashMap

/-!
# Indexed entries

Entries in an array with a table that leads from each key to the position of its entry. A write
through the table is a merge by key.
-/

namespace CodeAtlas

namespace Keyed

variable {α : Type} {key : α → String}

/-- The table leads from exactly the keys of the entries to where they stand. -/
structure Indexed (key : α → String) (entries : Array α) (table : Std.HashMap String Nat) : Prop where
  nodup : (entries.toList.map key).Nodup
  position : ∀ k, table[k]? = entries.toList.findIdx? fun x => key x = k

private theorem set_eq_map {xs : List α} (hnd : (xs.map key).Nodup) {x : α} {p : Nat}
    (hp : xs.findIdx? (fun y => key y = key x) = some p) :
    xs.set p x = xs.map fun y => if key y = key x then x else y := by
  obtain ⟨hlt, hkey, _⟩ := List.findIdx?_eq_some_iff_getElem.mp hp
  simp only [decide_eq_true_iff] at hkey
  apply List.ext_getElem
  · simp
  · intro i hi hi'
    have hix : i < xs.length := by simpa using hi
    rw [List.getElem_set, List.getElem_map]
    by_cases hip : p = i
    · subst hip
      simp [hkey]
    · have hne : key xs[i] ≠ key x := by
        intro he
        apply hip
        have hlen : p < (xs.map key).length ∧ i < (xs.map key).length := by simp [hlt, hix]
        have hpi : (xs.map key).get ⟨p, hlen.1⟩ = (xs.map key).get ⟨i, hlen.2⟩ := by
          simp [hkey, he]
        simpa using List.nodup_iff_injective_get.mp hnd hpi
      simp [hip, hne]

namespace Indexed

variable {entries : Array α} {table : Std.HashMap String Nat}

theorem empty (key : α → String) : Indexed key #[] ∅ where
  nodup := List.nodup_nil
  position k := by simp

theorem mem_iff (h : Indexed key entries table) (k : String) :
    k ∈ table ↔ k ∈ entries.toList.map key := by
  rw [Std.HashMap.mem_iff_isSome_getElem?, h.position, List.findIdx?_isSome, List.any_eq_true,
    List.mem_map]
  simp only [decide_eq_true_iff]

theorem contains_eq (h : Indexed key entries table) (k : String) :
    table.contains k = decide (k ∈ entries.toList.map key) := by
  rw [Bool.eq_iff_iff, ← Std.HashMap.mem_iff_contains, h.mem_iff, decide_eq_true_iff]

theorem getElem?_eq_some_iff (h : Indexed key entries table) (k : String) (p : Nat) :
    table[k]? = some p ↔ ∃ x, entries[p]? = some x ∧ key x = k := by
  rw [h.position, List.findIdx?_eq_some_iff_getElem]
  simp only [decide_eq_true_iff, ← Array.getElem?_toList]
  constructor
  · rintro ⟨hp, hk, -⟩
    exact ⟨_, List.getElem?_eq_getElem hp, hk⟩
  · rintro ⟨x, hx, hk⟩
    obtain ⟨hp, rfl⟩ := List.getElem?_eq_some_iff.mp hx
    refine ⟨hp, hk, ?_⟩
    intro j hj hjk
    have hkeys : entries.toList.Pairwise fun a b => key a ≠ key b := List.pairwise_map.mp h.nodup
    exact List.pairwise_iff_getElem.mp hkeys j p _ hp hj (hjk.trans hk.symm)

theorem bind_getElem? (h : Indexed key entries table) (k : String) :
    (table[k]?.bind fun position => entries[position]?) = lookup? key k entries.toList := by
  rw [h.position, lookup?, List.find?_eq_bind_findIdx?_getElem?]
  simp

theorem mem_keys_of_some (h : Indexed key entries table) {k : String} {p : Nat}
    (hp : table[k]? = some p) : k ∈ entries.toList.map key := by
  rw [← h.mem_iff, Std.HashMap.mem_iff_isSome_getElem?, hp]
  rfl

theorem not_mem_keys_of_none (h : Indexed key entries table) {k : String}
    (hp : table[k]? = none) : k ∉ entries.toList.map key := by
  rw [← h.mem_iff, Std.HashMap.mem_iff_isSome_getElem?, hp]
  simp

theorem toList_set (h : Indexed key entries table) {x : α} {p : Nat}
    (hp : table[key x]? = some p) :
    (entries.setIfInBounds p x).toList = merge key entries.toList x := by
  rw [merge_of_mem key (h.mem_keys_of_some hp), Array.toList_setIfInBounds]
  exact set_eq_map h.nodup (h.position (key x) ▸ hp)

theorem set (h : Indexed key entries table) {x : α} {p : Nat} (hp : table[key x]? = some p) :
    Indexed key (entries.setIfInBounds p x) table := by
  have hkeys : (merge key entries.toList x).map key = entries.toList.map key := by
    rw [keys_merge, if_pos (h.mem_keys_of_some hp)]
  constructor
  · rw [h.toList_set hp, hkeys]
    exact h.nodup
  · intro k
    have hfind (ys : List α) : ys.findIdx? (fun y => decide (key y = k)) =
        (ys.map key).findIdx? fun k' => decide (k' = k) := by
      rw [List.findIdx?_map]
      rfl
    rw [h.toList_set hp, h.position, hfind, hfind, hkeys]

theorem toList_push (h : Indexed key entries table) {x : α} (hx : table[key x]? = none) :
    (entries.push x).toList = merge key entries.toList x := by
  rw [merge_of_not_mem key (h.not_mem_keys_of_none hx), Array.toList_push]

theorem push (h : Indexed key entries table) {x : α} (hx : table[key x]? = none) :
    Indexed key (entries.push x) (table.insert (key x) entries.size) := by
  constructor
  · rw [h.toList_push hx]
    exact nodup_keys_merge key h.nodup x
  · intro k
    rw [Std.HashMap.getElem?_insert, h.position, Array.toList_push, List.findIdx?_append]
    by_cases hk : key x = k
    · have hnone := h.position k ▸ hk ▸ hx
      simp [hk, hnone]
    · simp [hk]

end Indexed

end Keyed

end CodeAtlas
