import CodeAtlas.Text.Search
import Mathlib.Data.String.Basic

/-!
# Prefixes in the order of texts

The texts with a given start stand together in the order of texts, from the start itself on.
-/

namespace CodeAtlas

namespace Text

theorem startsWith_iff (start text : String) :
    startsWith start text = true ↔ start.toList <+: text.toList := List.isPrefixOf_iff_prefix

theorem le_of_startsWith {start text : String} (h : startsWith start text = true) :
    start ≤ text := by
  have hle := ((startsWith_iff start text).mp h).le
  exact not_lt.mp fun hlt => hle (String.lt_iff_toList_lt.mp hlt)

private theorem prefix_of_between {s t u : List Char} (hsu : s <+: u) (hst : ¬ t < s)
    (htu : ¬ u < t) : s <+: t := by
  induction s generalizing t u with
  | nil => exact List.nil_prefix
  | cons a s ih =>
    obtain ⟨u', rfl⟩ := hsu
    cases t with
    | nil => exact absurd (List.nil_lt_cons a s) hst
    | cons b t =>
      simp only [List.cons_append, List.cons_lt_cons_iff, not_or, not_and] at hst htu
      have hba : b = a := le_antisymm (not_lt.mp htu.1) (not_lt.mp hst.1)
      subst hba
      have htail := ih (List.prefix_append s u') (hst.2 rfl) (htu.2 rfl)
      exact (List.prefix_cons_inj b).mpr htail

theorem startsWith_of_between {start text other : String} (h : startsWith start other = true)
    (hstart : start ≤ text) (hother : text ≤ other) : startsWith start text = true := by
  rw [startsWith_iff] at h ⊢
  exact prefix_of_between h (fun hlt => not_lt.mpr hstart (String.lt_iff_toList_lt.mpr hlt))
    (fun hlt => not_lt.mpr hother (String.lt_iff_toList_lt.mpr hlt))

end Text

end CodeAtlas
