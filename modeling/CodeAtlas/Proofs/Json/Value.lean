import CodeAtlas.Json.Value
import CodeAtlas.Proofs.Keyed.Sort
import Mathlib.Data.String.Basic

/-!
# Values in which the order of entries means nothing

Two values are the same if they are equal once the entries of every object stand in the order of their
keys. Objects are the same if a lookup finds the same in both.
-/

namespace CodeAtlas.Json

open Keyed

mutual

def sorted : Json → Json
  | .array items => .array (sortedItems items)
  | .object entries => .object ((sortedEntries entries).mergeSort fun a b => decide (a.1 ≤ b.1))
  | value => value

def sortedItems : List Json → List Json
  | [] => []
  | item :: rest => sorted item :: sortedItems rest

def sortedEntries : List (String × Json) → List (String × Json)
  | [] => []
  | (key, value) :: rest => (key, sorted value) :: sortedEntries rest

end

/-- Whether two values are equal but for the order of entries. -/
def Same (a b : Json) : Prop := sorted a = sorted b

theorem Same.refl (a : Json) : Same a a := rfl

theorem sortedItems_eq_map (items : List Json) : sortedItems items = items.map sorted := by
  induction items with
  | nil => rfl
  | cons item items ih => rw [sortedItems, ih, List.map_cons]

theorem keys_sortedEntries (es : List (String × Json)) :
    (sortedEntries es).map Prod.fst = es.map Prod.fst := by
  induction es with
  | nil => rfl
  | cons e es ih => rw [sortedEntries, List.map_cons, List.map_cons, ih]

theorem lookup_sortedEntries (es : List (String × Json)) (key : String) :
    (sortedEntries es).lookup key = (es.lookup key).map sorted := by
  induction es with
  | nil => rfl
  | cons e es ih =>
    rw [sortedEntries, List.lookup_cons, List.lookup_cons, ih]
    cases key == e.1 <;> rfl

theorem same_array {xs ys : List Json} (h : xs.map sorted = ys.map sorted) :
    Same (.array xs) (.array ys) := by
  rw [Same, sorted, sorted, sortedItems_eq_map, sortedItems_eq_map, h]

theorem same_object {es fs : List (String × Json)} (hes : (es.map Prod.fst).Nodup)
    (hfs : (fs.map Prod.fst).Nodup)
    (h : ∀ key, (es.lookup key).map sorted = (fs.lookup key).map sorted) :
    Same (.object es) (.object fs) := by
  rw [← keys_sortedEntries] at hes hfs
  simp only [← lookup_sortedEntries] at h
  rw [Same, sorted, sorted, mergeSort_fst_eq_of_perm hes (perm_of_lookup_eq hes hfs h)]

end CodeAtlas.Json
