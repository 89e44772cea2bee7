import CodeAtlas.Proofs.Keyed.Merge

/-!
# First and repeated entries

An entry is a repeat if one before it has the same key, and otherwise the first of its key. What is kept
of a list are its first entries, and by its key each of them is what a lookup finds.
-/

namespace CodeAtlas

namespace Keyed

section Before

variable {α : Type}

/-- The entries of which `p` holds together with all that stands before them. -/
def chosen (p : List α → α → Bool) (xs : List α) : List α :=
  (xs.zipIdx.filter fun entry => p (xs.take entry.2) entry.1).map Prod.fst

theorem chosen_concat (p : List α → α → Bool) (xs : List α) (x : α) :
    chosen p (xs ++ [x]) = chosen p xs ++ if p xs x then [x] else [] := by
  have hold : (xs.zipIdx.filter fun entry => p ((xs ++ [x]).take entry.2) entry.1) =
      xs.zipIdx.filter fun entry => p (xs.take entry.2) entry.1 := by
    apply List.filter_congr
    intro entry hentry
    have hlt : entry.2 < xs.length := by
      have hbound := List.snd_lt_add_of_mem_zipIdx hentry
      simpa using hbound
    rw [List.take_append_of_le_length (Nat.le_of_lt hlt)]
  rw [chosen, List.zipIdx_append, List.filter_append, List.map_append, hold, chosen]
  by_cases hx : p xs x <;> simp [hx]

theorem mem_chosen_iff (p : List α → α → Bool) (xs : List α) (x : α) :
    x ∈ chosen p xs ↔ ∃ before after, xs = before ++ x :: after ∧ p before x := by
  induction xs using List.reverseRecOn with
  | nil => simp [chosen]
  | append_singleton xs y ih =>
    rw [chosen_concat, List.mem_append, ih]
    constructor
    · rintro (⟨before, after, rfl, hp⟩ | hlast)
      · exact ⟨before, after ++ [y], by simp, hp⟩
      · by_cases hy : p xs y
        · rw [if_pos hy, List.mem_singleton] at hlast
          subst hlast
          exact ⟨xs, [], rfl, hy⟩
        · simp [hy] at hlast
    · rintro ⟨before, after, hsplit, hp⟩
      rcases List.eq_nil_or_concat' after with rfl | ⟨after, z, rfl⟩
      · obtain ⟨rfl, hxy⟩ := List.append_inj' hsplit rfl
        obtain rfl : y = x := by simpa using hxy
        exact Or.inr (by simp [hp])
      · rw [← List.cons_append, ← List.append_assoc] at hsplit
        obtain ⟨rfl, -⟩ := List.append_inj' hsplit rfl
        exact Or.inl ⟨before, after, rfl, hp⟩

end Before

variable {α κ : Type} [DecidableEq κ] (key : α → κ)

def firsts (xs : List α) : List α :=
  chosen (fun before x => decide (key x ∉ before.map key)) xs

def repeats (xs : List α) : List α :=
  chosen (fun before x => decide (key x ∈ before.map key)) xs

theorem firsts_concat (xs : List α) (x : α) :
    firsts key (xs ++ [x]) = if key x ∈ xs.map key then firsts key xs else firsts key xs ++ [x] := by
  rw [firsts, chosen_concat]
  by_cases hx : key x ∈ xs.map key
  · simp only [hx, not_true_eq_false, decide_false, Bool.false_eq_true, if_false, if_true,
      List.append_nil]
    rfl
  · simp only [hx, not_false_eq_true, decide_true, if_true, if_false]
    rfl

theorem repeats_concat (xs : List α) (x : α) :
    repeats key (xs ++ [x]) =
      if key x ∈ xs.map key then repeats key xs ++ [x] else repeats key xs := by
  rw [repeats, chosen_concat]
  by_cases hx : key x ∈ xs.map key
  · simp only [hx, decide_true, if_true]
    rfl
  · simp only [hx, decide_false, Bool.false_eq_true, if_false, List.append_nil]
    rfl

example : repeats Prod.fst [(1, 'a'), (2, 'b'), (1, 'c'), (1, 'd')] = [(1, 'c'), (1, 'd')] := by
  decide

theorem repeats_map {β : Type} (f : β → α) (xs : List β) :
    repeats key (xs.map f) = (repeats (key ∘ f) xs).map f := by
  induction xs using List.reverseRecOn with
  | nil => rfl
  | append_singleton xs x ih =>
    rw [List.map_append, List.map_singleton, repeats_concat, repeats_concat, ih, List.map_map,
      Function.comp_apply]
    by_cases hx : key (f x) ∈ xs.map (key ∘ f)
    · rw [if_pos hx, if_pos hx, List.map_append, List.map_singleton]
    · rw [if_neg hx, if_neg hx]

theorem repeats_congr {ι : Type} [DecidableEq ι] {key : α → κ} {key' : α → ι} {xs : List α}
    (h : ∀ x ∈ xs, ∀ y ∈ xs, key x = key y ↔ key' x = key' y) : repeats key xs = repeats key' xs := by
  induction xs using List.reverseRecOn with
  | nil => rfl
  | append_singleton xs x ih =>
    have hx : key x ∈ xs.map key ↔ key' x ∈ xs.map key' := by
      rw [List.mem_map, List.mem_map]
      apply exists_congr
      intro y
      apply and_congr_right
      intro hy
      exact h y (List.mem_append_left _ hy) x (List.mem_append_right _ List.mem_cons_self)
    have hold := ih fun y hy z hz =>
      h y (List.mem_append_left _ hy) z (List.mem_append_left _ hz)
    rw [repeats_concat, repeats_concat, hold]
    simp only [hx]

theorem mem_repeats_iff (xs : List α) (x : α) :
    x ∈ repeats key xs ↔ ∃ y, [y, x].Sublist xs ∧ key y = key x := by
  rw [repeats, mem_chosen_iff]
  constructor
  · rintro ⟨before, after, rfl, hx⟩
    obtain ⟨y, hy, hkey⟩ := List.mem_map.mp (of_decide_eq_true hx)
    refine ⟨y, ?_, hkey⟩
    exact (List.singleton_sublist.mpr hy).append (List.singleton_sublist.mpr List.mem_cons_self)
  · rintro ⟨y, hsub, hkey⟩
    obtain ⟨before, rest, rfl, hy, hx⟩ := List.cons_sublist_iff.mp hsub
    obtain ⟨mid, after, rfl⟩ := List.append_of_mem (List.singleton_sublist.mp hx)
    refine ⟨before ++ mid, after, by simp, ?_⟩
    exact decide_eq_true (List.mem_map.mpr ⟨y, List.mem_append_left _ hy, hkey⟩)

theorem keepAll_nil_eq_firsts (xs : List α) : keepAll key [] xs = firsts key xs := by
  induction xs using List.reverseRecOn with
  | nil => rfl
  | append_singleton xs x ih =>
    have hkeys : key x ∈ (firsts key xs).map key ↔ key x ∈ xs.map key := by
      rw [← ih, keys_keepAll, List.mem_eraseDups]
    rw [keepAll_concat, ih, keep, firsts_concat]
    simp only [hkeys]

theorem lookup?_concat (xs : List α) (x : α) (k : κ) :
    lookup? key k (xs ++ [x]) = (lookup? key k xs).or (if key x = k then some x else none) := by
  rw [lookup?, List.find?_append]
  by_cases hk : key x = k <;> simp [lookup?, hk]

theorem lookup?_firsts (xs : List α) (k : κ) : lookup? key k (firsts key xs) = lookup? key k xs := by
  induction xs using List.reverseRecOn with
  | nil => rfl
  | append_singleton xs x ih =>
    rw [firsts_concat, lookup?_concat]
    by_cases hx : key x ∈ xs.map key
    · rw [if_pos hx, ih]
      by_cases hk : key x = k
      · obtain ⟨y, hy⟩ := Option.isSome_iff_exists.mp ((lookup?_isSome_iff key xs k).mpr (hk ▸ hx))
        rw [hy, Option.some_or]
      · rw [if_neg hk, Option.or_none]
    · rw [if_neg hx, lookup?_concat, ih]

end Keyed

end CodeAtlas
