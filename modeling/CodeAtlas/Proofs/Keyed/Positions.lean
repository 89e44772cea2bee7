import Mathlib.Data.List.Basic
import Mathlib.Data.List.Induction

/-!
# Positions of chosen entries
-/

namespace CodeAtlas

namespace Keyed

variable {α : Type}

theorem findIdxs_concat (p : α → Bool) (xs : List α) (x : α) :
    (xs ++ [x]).findIdxs p = xs.findIdxs p ++ if p x then [xs.length] else [] := by
  rw [List.findIdxs_append, List.findIdxs_singleton, Nat.zero_add]

theorem mem_findIdxs_iff (p : α → Bool) (xs : List α) (i : Nat) :
    i ∈ xs.findIdxs p ↔ ∃ x, xs[i]? = some x ∧ p x := by
  rw [List.mem_findIdxs_iff_exists_getElem_pos]
  constructor
  · rintro ⟨hi, hp⟩
    exact ⟨_, List.getElem?_eq_getElem hi, hp⟩
  · rintro ⟨x, hx, hp⟩
    obtain ⟨hi, rfl⟩ := List.getElem?_eq_some_iff.mp hx
    exact ⟨hi, hp⟩

theorem map_getElem?_findIdxs (p : α → Bool) (xs : List α) :
    (xs.findIdxs p).map (fun i => xs[i]?) = (xs.filter p).map some := by
  induction xs using List.reverseRecOn with
  | nil => rfl
  | append_singleton xs x ih =>
    have hold : (xs.findIdxs p).map (fun i => (xs ++ [x])[i]?) =
        (xs.findIdxs p).map fun i => xs[i]? := by
      apply List.map_congr_left
      intro i hi
      exact List.getElem?_append_left (by simpa using List.lt_add_of_mem_findIdxs i hi)
    rw [findIdxs_concat, List.map_append, hold, ih, List.filter_append, List.map_append]
    by_cases hx : p x <;> simp [hx]

theorem filterMap_getElem?_findIdxs (p : α → Bool) (xs : List α) :
    (xs.findIdxs p).filterMap (fun i => xs[i]?) = xs.filter p := by
  calc (xs.findIdxs p).filterMap (fun i => xs[i]?)
      = ((xs.findIdxs p).map fun i => xs[i]?).filterMap id := by simp
    _ = ((xs.filter p).map some).filterMap id := by rw [map_getElem?_findIdxs]
    _ = xs.filter p := by simp

theorem map_snd_filter_zipIdx (p : α → Bool) (xs : List α) (start : Nat) :
    ((xs.zipIdx start).filter fun pair => p pair.1).map Prod.snd = xs.findIdxs p start := by
  induction xs generalizing start with
  | nil => rfl
  | cons x xs ih => by_cases hx : p x <;> simp [hx, ih]

/-- An entry of a list that is put together around another entry is that entry, or stands before or
behind it. -/
theorem append_cons_cases {as bs cs ds : List α} {a c : α} (h : as ++ a :: bs = cs ++ c :: ds) :
    (as = cs ∧ a = c ∧ bs = ds) ∨ (∃ mid, as = cs ++ c :: mid ∧ ds = mid ++ a :: bs) ∨
      ∃ mid, cs = as ++ a :: mid ∧ bs = mid ++ c :: ds := by
  rcases List.append_eq_append_iff.mp h with ⟨mid, hcs, hrest⟩ | ⟨mid, has, hrest⟩
  · cases mid with
    | nil =>
      obtain ⟨rfl, rfl⟩ := List.cons.inj hrest
      exact Or.inl ⟨by simpa using hcs.symm, rfl, rfl⟩
    | cons x mid =>
      obtain ⟨rfl, rfl⟩ := List.cons.inj hrest
      exact Or.inr (Or.inr ⟨mid, hcs, rfl⟩)
  · cases mid with
    | nil =>
      obtain ⟨rfl, rfl⟩ := List.cons.inj hrest
      exact Or.inl ⟨by simpa using has, rfl, rfl⟩
    | cons x mid =>
      obtain ⟨rfl, rfl⟩ := List.cons.inj hrest
      exact Or.inr (Or.inl ⟨mid, has, rfl⟩)

theorem append_separator_inj {as bs cs ds : List α} {a : α} (hbs : a ∉ bs) (hds : a ∉ ds) :
    as ++ a :: bs = cs ++ a :: ds ↔ as = cs ∧ bs = ds := by
  constructor
  · intro h
    obtain ⟨has, -, hrest⟩ | ⟨mid, -, hmid⟩ | ⟨mid, -, hmid⟩ := append_cons_cases h
    · exact ⟨has, hrest⟩
    · exact absurd (hmid ▸ List.mem_append_right mid List.mem_cons_self) hds
    · exact absurd (hmid ▸ List.mem_append_right mid List.mem_cons_self) hbs
  · rintro ⟨rfl, rfl⟩
    rfl

end Keyed

end CodeAtlas
