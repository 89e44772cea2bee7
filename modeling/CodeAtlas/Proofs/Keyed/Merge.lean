import Mathlib.Data.List.Induction
import Mathlib.Data.List.Nodup

/-!
# Merging by key

A list with one entry for each key. A written entry replaces the one of its key where that stands,
or else comes last; so keys keep the order of their first write, and entries are those of the last.
Where an entry is kept instead, the entries are those of the first write.
-/

namespace CodeAtlas

namespace Keyed

section FirstOccurrences

variable {α : Type} [DecidableEq α]

theorem eraseDups_concat (xs : List α) (x : α) :
    (xs ++ [x]).eraseDups = if x ∈ xs then xs.eraseDups else xs.eraseDups ++ [x] := by
  rw [List.eraseDups_append]
  by_cases h : x ∈ xs <;> simp [List.removeAll, h, List.eraseDups_cons]

theorem nodup_eraseDups (xs : List α) : xs.eraseDups.Nodup := by
  induction xs using List.reverseRecOn with
  | nil => simp
  | append_singleton xs x ih =>
    rw [eraseDups_concat]
    by_cases h : x ∈ xs
    · simpa [h] using ih
    · simp only [h, if_false]
      refine List.Nodup.append ih (List.nodup_singleton x) ?_
      simpa [List.disjoint_singleton] using h

theorem eraseDups_of_nodup {xs : List α} (h : xs.Nodup) : xs.eraseDups = xs := by
  induction xs using List.reverseRecOn with
  | nil => rfl
  | append_singleton xs x ih =>
    have hx : x ∉ xs := fun hm => (List.nodup_append.mp h).2.2 x hm x (by simp) rfl
    rw [eraseDups_concat, ih (List.nodup_append.mp h).1]
    simp [hx]

theorem eraseDups_append_of_subset {xs ys : List α} (h : ys ⊆ xs) :
    (xs ++ ys).eraseDups = xs.eraseDups := by
  have hnone : ys.removeAll xs = [] := by
    rw [List.removeAll, List.filter_eq_nil_iff]
    intro y hy
    simpa using h hy
  rw [List.eraseDups_append, hnone, List.eraseDups_nil, List.append_nil]

theorem eraseDups_append_eraseDups (xs ys : List α) :
    (xs ++ ys.eraseDups).eraseDups = (xs ++ ys).eraseDups := by
  induction ys using List.reverseRecOn with
  | nil => rfl
  | append_singleton ys y ih =>
    rw [eraseDups_concat ys, ← List.append_assoc, eraseDups_concat (xs ++ ys)]
    by_cases hy : y ∈ ys
    · rw [if_pos hy, if_pos (List.mem_append_right xs hy), ih]
    · rw [if_neg hy, ← List.append_assoc, eraseDups_concat, ih]
      simp only [List.mem_append, List.mem_eraseDups]

theorem eraseDups_sublist (xs : List α) : xs.eraseDups.Sublist xs := by
  induction xs using List.reverseRecOn with
  | nil => exact List.Sublist.slnil
  | append_singleton xs x ih =>
    rw [eraseDups_concat]
    by_cases hx : x ∈ xs
    · rw [if_pos hx]
      exact ih.trans (List.sublist_append_left xs [x])
    · rw [if_neg hx]
      exact ih.append_right [x]

theorem eraseDups_map {β : Type} [DecidableEq β] {f : α → β} {xs : List α}
    (h : ∀ x ∈ xs, ∀ y ∈ xs, f x = f y → x = y) : (xs.map f).eraseDups = xs.eraseDups.map f := by
  induction xs using List.reverseRecOn with
  | nil => rfl
  | append_singleton xs x ih =>
    have hx : f x ∈ xs.map f ↔ x ∈ xs := by
      constructor
      · intro hfx
        obtain ⟨y, hy, hyx⟩ := List.mem_map.mp hfx
        obtain rfl := h y (List.mem_append_left _ hy) x (List.mem_append_right _ (by simp)) hyx
        exact hy
      · exact List.mem_map_of_mem
    have hold := ih fun y hy z hz =>
      h y (List.mem_append_left _ hy) z (List.mem_append_left _ hz)
    rw [List.map_append, List.map_singleton, eraseDups_concat, eraseDups_concat, hold]
    by_cases hmem : x ∈ xs
    · rw [if_pos hmem, if_pos (hx.mpr hmem)]
    · rw [if_neg hmem, if_neg (mt hx.mp hmem), List.map_append, List.map_singleton]

theorem length_eraseDups_eq_iff (xs : List α) : xs.eraseDups.length = xs.length ↔ xs.Nodup := by
  constructor
  · intro h
    rw [← (eraseDups_sublist xs).eq_of_length h]
    exact nodup_eraseDups xs
  · intro h
    rw [eraseDups_of_nodup h]

theorem eraseDups_perm {xs ys : List α} (h : xs.Perm ys) : xs.eraseDups.Perm ys.eraseDups := by
  rw [List.perm_ext_iff_of_nodup (nodup_eraseDups xs) (nodup_eraseDups ys)]
  intro x
  rw [List.mem_eraseDups, List.mem_eraseDups, h.mem_iff]

end FirstOccurrences

variable {α κ : Type} [DecidableEq κ] (key : α → κ)

/-- Writes an entry in the place of the one with its key, or at the end. -/
def merge (xs : List α) (x : α) : List α :=
  if key x ∈ xs.map key then xs.map fun y => if key y = key x then x else y else xs ++ [x]

def mergeAll (xs ys : List α) : List α := ys.foldl (merge key) xs

def lookup? (k : κ) (xs : List α) : Option α := xs.find? fun x => key x = k

def last? (k : κ) (xs : List α) : Option α := (xs.filter fun x => key x = k).getLast?

@[simp] theorem mergeAll_nil (xs : List α) : mergeAll key xs [] = xs := rfl

@[simp] theorem mergeAll_cons (xs ys : List α) (y : α) :
    mergeAll key xs (y :: ys) = mergeAll key (merge key xs y) ys := rfl

theorem mergeAll_append (xs ys zs : List α) :
    mergeAll key xs (ys ++ zs) = mergeAll key (mergeAll key xs ys) zs := by
  simp [mergeAll]

theorem merge_of_mem {xs : List α} {x : α} (h : key x ∈ xs.map key) :
    merge key xs x = xs.map fun y => if key y = key x then x else y := by
  rw [merge, if_pos h]

theorem merge_of_not_mem {xs : List α} {x : α} (h : key x ∉ xs.map key) :
    merge key xs x = xs ++ [x] := by
  rw [merge, if_neg h]

theorem keys_merge (xs : List α) (x : α) :
    (merge key xs x).map key =
      if key x ∈ xs.map key then xs.map key else xs.map key ++ [key x] := by
  by_cases h : key x ∈ xs.map key
  · rw [merge_of_mem key h, if_pos h, List.map_map]
    apply List.map_congr_left
    intro y _
    by_cases hy : key y = key x <;> simp [hy]
  · rw [merge_of_not_mem key h, if_neg h]
    simp

theorem mem_keys_merge (xs : List α) (x : α) (k : κ) :
    k ∈ (merge key xs x).map key ↔ k ∈ xs.map key ∨ k = key x := by
  rw [keys_merge]
  by_cases h : key x ∈ xs.map key
  · rw [if_pos h]
    exact ⟨Or.inl, fun hk => hk.elim id fun he => he ▸ h⟩
  · rw [if_neg h, List.mem_append, List.mem_singleton]

theorem nodup_keys_merge {xs : List α} (h : (xs.map key).Nodup) (x : α) :
    ((merge key xs x).map key).Nodup := by
  rw [keys_merge]
  by_cases hx : key x ∈ xs.map key
  · rwa [if_pos hx]
  · rw [if_neg hx]
    exact List.Nodup.append h (List.nodup_singleton _) (by simpa [List.disjoint_singleton] using hx)

theorem nodup_keys_mergeAll {xs : List α} (h : (xs.map key).Nodup) (ys : List α) :
    ((mergeAll key xs ys).map key).Nodup := by
  induction ys generalizing xs with
  | nil => exact h
  | cons y ys ih => exact ih (nodup_keys_merge key h y)

theorem keys_mergeAll {xs : List α} (h : (xs.map key).Nodup) (ys : List α) :
    (mergeAll key xs ys).map key = (xs.map key ++ ys.map key).eraseDups := by
  induction ys using List.reverseRecOn with
  | nil => simp [eraseDups_of_nodup h]
  | append_singleton ys y ih =>
    have hy : key y ∈ (mergeAll key xs ys).map key ↔ key y ∈ xs.map key ++ ys.map key := by
      rw [ih, List.mem_eraseDups]
    rw [mergeAll_append, mergeAll_cons, mergeAll_nil, keys_merge, ih, List.map_append,
      List.map_singleton, ← List.append_assoc, eraseDups_concat]
    simp only [← ih, hy]

theorem keys_mergeAll_nil (ys : List α) :
    (mergeAll key [] ys).map key = (ys.map key).eraseDups := by
  have hnil : (([] : List α).map key).Nodup := List.nodup_nil
  exact keys_mergeAll key hnil ys

theorem lookup?_isSome_iff (xs : List α) (k : κ) :
    (lookup? key k xs).isSome ↔ k ∈ xs.map key := by
  simp [lookup?]

theorem lookup?_eq_none_iff (xs : List α) (k : κ) : lookup? key k xs = none ↔ k ∉ xs.map key := by
  simp [lookup?]

theorem key_eq_of_lookup? {xs : List α} {k : κ} {x : α} (h : lookup? key k xs = some x) :
    key x = k := by
  simpa using List.find?_some h

theorem mem_of_lookup? {xs : List α} {k : κ} {x : α} (h : lookup? key k xs = some x) : x ∈ xs :=
  List.mem_of_find?_eq_some h

theorem lookup?_of_mem {xs : List α} (hnd : (xs.map key).Nodup) {x : α} (hx : x ∈ xs) :
    lookup? key (key x) xs = some x := by
  obtain ⟨y, hy⟩ := Option.isSome_iff_exists.mp
    ((lookup?_isSome_iff key xs (key x)).mpr (List.mem_map_of_mem hx))
  have hyx := List.inj_on_of_nodup_map hnd (mem_of_lookup? key hy) hx (key_eq_of_lookup? key hy)
  rw [hy, hyx]

theorem lookup?_merge (xs : List α) (x : α) (k : κ) :
    lookup? key k (merge key xs x) = if key x = k then some x else lookup? key k xs := by
  by_cases hx : key x ∈ xs.map key
  · have hkey : ((fun y => decide (key y = k)) ∘ fun y => if key y = key x then x else y) =
        fun y => decide (key y = k) := by
      funext y
      by_cases hy : key y = key x <;> simp [hy]
    rw [merge_of_mem key hx, lookup?, List.find?_map, hkey]
    change (lookup? key k xs).map _ = _
    cases hf : lookup? key k xs with
    | none =>
      have hne : key x ≠ k := fun he => (lookup?_eq_none_iff key xs k).mp hf (he ▸ hx)
      simp [hne]
    | some y =>
      have hy := key_eq_of_lookup? key hf
      by_cases hk : key x = k
      · simp [hk, hy]
      · have hyx : key y ≠ key x := fun he => hk (he ▸ hy)
        simp [hk, hyx]
  · rw [merge_of_not_mem key hx, lookup?, List.find?_append]
    by_cases hk : key x = k
    · have hnone : xs.find? (fun y => decide (key y = k)) = none :=
        (lookup?_eq_none_iff key xs k).mpr (hk ▸ hx)
      simp [hnone, hk]
    · simp [lookup?, hk]

theorem filter_key_eq {xs : List α} (hnd : (xs.map key).Nodup) (k : κ) :
    xs.filter (fun x => key x = k) = (lookup? key k xs).toList := by
  induction xs with
  | nil => rfl
  | cons x xs ih =>
    rw [List.map_cons, List.nodup_cons] at hnd
    rw [lookup?, List.find?_cons, List.filter_cons]
    by_cases hx : key x = k
    · have hnone : xs.filter (fun y => key y = k) = [] := by
        rw [ih hnd.2, (lookup?_eq_none_iff key xs k).mpr (hx ▸ hnd.1)]
        rfl
      simp [hx, hnone]
    · have hrest := ih hnd.2
      rw [lookup?] at hrest
      simp [hx, hrest]

theorem merge_map {β : Type} (f : β → α) (xs : List β) (x : β) :
    merge key (xs.map f) (f x) = (merge (key ∘ f) xs x).map f := by
  have hkeys : (xs.map f).map key = xs.map (key ∘ f) := List.map_map
  by_cases h : key (f x) ∈ (xs.map f).map key
  · rw [merge_of_mem key h, merge_of_mem (key ∘ f) (hkeys ▸ h), List.map_map, List.map_map]
    apply List.map_congr_left
    intro y _
    by_cases hy : key (f y) = key (f x) <;> simp [hy]
  · rw [merge_of_not_mem key h, merge_of_not_mem (key ∘ f) (hkeys ▸ h)]
    simp

theorem getElem?_merge_of_ne (xs : List α) {x y : α} (h : key y ≠ key x) (i : Nat) :
    (merge key xs x)[i]? = some y ↔ xs[i]? = some y := by
  have hxy : x ≠ y := fun he => h (congrArg key he.symm)
  by_cases hx : key x ∈ xs.map key
  · rw [merge_of_mem key hx, List.getElem?_map]
    cases xs[i]? with
    | none => rfl
    | some z =>
      by_cases hz : key z = key x
      · have hzy : z ≠ y := fun he => h (he ▸ hz)
        simp [hz, hxy, hzy]
      · simp [hz]
  · rw [merge_of_not_mem key hx, List.getElem?_append]
    by_cases hi : i < xs.length
    · rw [if_pos hi]
    · rw [if_neg hi, List.getElem?_eq_none (Nat.le_of_not_lt hi)]
      cases i - xs.length with
      | zero => simp [hxy]
      | succ n => simp

theorem getElem?_mergeAll_of_not_mem (xs : List α) {ys : List α} {y : α} (h : key y ∉ ys.map key)
    (i : Nat) : (mergeAll key xs ys)[i]? = some y ↔ xs[i]? = some y := by
  induction ys generalizing xs with
  | nil => rfl
  | cons z ys ih =>
    rw [List.map_cons, List.mem_cons, not_or] at h
    rw [mergeAll_cons, ih (merge key xs z) h.2, getElem?_merge_of_ne key xs h.1]

theorem last?_cons (x : α) (xs : List α) (k : κ) :
    last? key k (x :: xs) = (last? key k xs).or (if key x = k then some x else none) := by
  by_cases hk : key x = k
  · simp only [last?, List.filter_cons, hk, decide_true, if_true, List.getLast?_cons]
    cases (xs.filter fun y => decide (key y = k)).getLast? <;> rfl
  · simp [last?, hk]

theorem lookup?_mergeAll (xs ys : List α) (k : κ) :
    lookup? key k (mergeAll key xs ys) = (last? key k ys).or (lookup? key k xs) := by
  induction ys generalizing xs with
  | nil => simp [last?]
  | cons y ys ih =>
    rw [mergeAll_cons, ih, lookup?_merge, last?_cons]
    by_cases hk : key y = k <;> cases last? key k ys <;> simp [hk]

theorem last?_isSome_iff (xs : List α) (k : κ) : (last? key k xs).isSome ↔ k ∈ xs.map key := by
  simp [last?]

theorem mem_of_last? {xs : List α} {k : κ} {x : α} (h : last? key k xs = some x) :
    x ∈ xs ∧ key x = k := by
  have hx := List.mem_of_getLast? h
  simpa using hx

/-- One entry for each key, in the order of the first entries, and each the last of its key. -/
def latest (xs : List α) : List α := (xs.map key).eraseDups.filterMap fun k => last? key k xs

theorem filterMap_lookup? {xs : List α} (hnd : (xs.map key).Nodup) :
    (xs.map key).filterMap (fun k => lookup? key k xs) = xs := by
  rw [List.filterMap_map]
  calc xs.filterMap ((fun k => lookup? key k xs) ∘ key)
      = xs.filterMap some := by
        apply List.filterMap_congr
        intro x hx
        exact lookup?_of_mem key hnd hx
    _ = xs := List.filterMap_some

theorem mergeAll_nil_eq_latest (ys : List α) : mergeAll key [] ys = latest key ys := by
  have hnil : (([] : List α).map key).Nodup := List.nodup_nil
  have hlookup (k : κ) : lookup? key k (mergeAll key [] ys) = last? key k ys := by
    rw [lookup?_mergeAll, lookup?, List.find?_nil, Option.or_none]
  calc mergeAll key [] ys
      = ((mergeAll key [] ys).map key).filterMap fun k => lookup? key k (mergeAll key [] ys) :=
        (filterMap_lookup? key (nodup_keys_mergeAll key hnil ys)).symm
    _ = latest key ys := by
        rw [keys_mergeAll_nil, latest]
        simp only [hlookup]

example : latest Prod.fst [(1, 'a'), (2, 'b'), (1, 'c')] = [(1, 'c'), (2, 'b')] := by decide

/-- Appends an entry unless there is one with its key. -/
def keep (xs : List α) (x : α) : List α := if key x ∈ xs.map key then xs else xs ++ [x]

def keepAll (xs ys : List α) : List α := ys.foldl (keep key) xs

theorem keep_of_mem {xs : List α} {x : α} (h : key x ∈ xs.map key) : keep key xs x = xs := by
  rw [keep, if_pos h]

theorem keep_of_not_mem {xs : List α} {x : α} (h : key x ∉ xs.map key) :
    keep key xs x = xs ++ [x] := by
  rw [keep, if_neg h]

theorem keepAll_concat (xs ys : List α) (y : α) :
    keepAll key xs (ys ++ [y]) = keep key (keepAll key xs ys) y := by
  simp [keepAll]

theorem filter_keepAll_of_not {p : α → Bool} (xs : List α) {ys : List α} (h : ∀ y ∈ ys, ¬ p y) :
    (keepAll key xs ys).filter p = xs.filter p := by
  induction ys using List.reverseRecOn with
  | nil => rfl
  | append_singleton ys y ih =>
    have hold := ih fun z hz => h z (List.mem_append_left _ hz)
    have hy : ¬ p y := h y (List.mem_append_right _ List.mem_cons_self)
    rw [keepAll_concat, keep]
    split
    · exact hold
    · rw [List.filter_append, hold, List.filter_cons_of_neg hy, List.filter_nil, List.append_nil]

theorem keys_keep (xs : List α) (x : α) :
    (keep key xs x).map key =
      if key x ∈ xs.map key then xs.map key else xs.map key ++ [key x] := by
  by_cases h : key x ∈ xs.map key
  · rw [keep_of_mem key h, if_pos h]
  · rw [keep_of_not_mem key h, if_neg h]
    simp

theorem mem_keys_keep (xs : List α) (x : α) (k : κ) :
    k ∈ (keep key xs x).map key ↔ k ∈ xs.map key ∨ k = key x := by
  rw [keys_keep, ← keys_merge, mem_keys_merge]

theorem mem_keep_id {α : Type} [DecidableEq α] (xs : List α) (x y : α) :
    y ∈ keep id xs x ↔ y ∈ xs ∨ y = x := by
  have hkeys := mem_keys_keep id xs x y
  simpa using hkeys

theorem nodup_keys_keep {xs : List α} (h : (xs.map key).Nodup) (x : α) :
    ((keep key xs x).map key).Nodup := by
  rw [keys_keep, ← keys_merge]
  exact nodup_keys_merge key h x

theorem keys_keepAll (ys : List α) : (keepAll key [] ys).map key = (ys.map key).eraseDups := by
  induction ys using List.reverseRecOn with
  | nil => rfl
  | append_singleton ys y ih =>
    rw [keepAll_concat, keys_keep, ih, List.map_append, List.map_singleton, eraseDups_concat]
    simp only [List.mem_eraseDups]

theorem mem_keepAll_iff (ys : List α) (y : α) :
    y ∈ keepAll key [] ys ↔ ∃ before after, ys = before ++ y :: after ∧ key y ∉ before.map key := by
  induction ys using List.reverseRecOn with
  | nil => simp [keepAll]
  | append_singleton ys z ih =>
    have hz : key z ∈ (keepAll key [] ys).map key ↔ key z ∈ ys.map key := by
      rw [keys_keepAll, List.mem_eraseDups]
    have hold : y ∈ keep key (keepAll key [] ys) z ↔
        y ∈ keepAll key [] ys ∨ (y = z ∧ key z ∉ ys.map key) := by
      by_cases h : key z ∈ ys.map key
      · rw [keep_of_mem key (hz.mpr h)]
        simp [h]
      · rw [keep_of_not_mem key (mt hz.mp h)]
        simp [h]
    rw [keepAll_concat, hold, ih]
    constructor
    · rintro (⟨before, after, rfl, hn⟩ | ⟨rfl, hn⟩)
      · exact ⟨before, after ++ [z], by simp, hn⟩
      · exact ⟨ys, [], rfl, hn⟩
    · rintro ⟨before, after, he, hn⟩
      rcases List.eq_nil_or_concat' after with rfl | ⟨after', w, rfl⟩
      · obtain ⟨rfl, hzy⟩ := List.append_inj' he rfl
        have hyz : z = y := by simpa using hzy
        exact Or.inr ⟨hyz.symm, hyz ▸ hn⟩
      · rw [← List.cons_append, ← List.append_assoc] at he
        obtain ⟨rfl, -⟩ := List.append_inj' he rfl
        exact Or.inl ⟨before, after', rfl, hn⟩

end Keyed

end CodeAtlas
