import CodeAtlas.Text.Blank
import Mathlib.Data.List.Basic
import Mathlib.Data.List.TakeWhile

/-!
# Trimming

A trimmed text neither begins nor ends with white space, and there is only white space around it.
-/

namespace CodeAtlas.Text

structure Trims (text inner : List Char) : Prop where
  around : ∃ front back, text = front ++ inner ++ back ∧ (∀ c ∈ front, isBlank c) ∧
    ∀ c ∈ back, isBlank c
  first : ∀ c ∈ inner.head?, isBlank c = false
  last : ∀ c ∈ inner.getLast?, isBlank c = false

section Ends

variable {p : Char → Bool}

theorem dropEndWhile_append_of_all {ys : List Char} (h : ∀ c ∈ ys, p c) (xs : List Char) :
    dropEndWhile p (xs ++ ys) = dropEndWhile p xs := by
  rw [dropEndWhile, dropEndWhile, List.reverse_append, List.dropWhile_append_of_pos]
  simpa using h

theorem dropEndWhile_append_singleton {c : Char} (h : p c = false) (xs : List Char) :
    dropEndWhile p (xs ++ [c]) = xs ++ [c] := by
  simp [dropEndWhile, h]

theorem not_of_mem_head?_dropWhile {xs : List Char} {c : Char}
    (h : c ∈ (xs.dropWhile p).head?) : p c = false := by
  have hfirst := List.head?_dropWhile_not p xs
  rw [Option.mem_def.mp h] at hfirst
  exact hfirst

theorem not_of_mem_getLast?_dropEndWhile {xs : List Char} {c : Char}
    (h : c ∈ (dropEndWhile p xs).getLast?) : p c = false := by
  rw [dropEndWhile, List.getLast?_reverse] at h
  exact not_of_mem_head?_dropWhile h

theorem exists_dropEndWhile_append (p : Char → Bool) (xs : List Char) :
    ∃ back, xs = dropEndWhile p xs ++ back ∧ ∀ c ∈ back, p c := by
  refine ⟨(xs.reverse.takeWhile p).reverse, ?_, ?_⟩
  · rw [dropEndWhile, ← List.reverse_append, List.takeWhile_append_dropWhile, List.reverse_reverse]
  · intro c hc
    exact List.mem_takeWhile_imp (List.mem_reverse.mp hc)

end Ends

theorem trims_trim (text : List Char) : Trims text (trim text) := by
  obtain ⟨back, hsplit, hback⟩ := exists_dropEndWhile_append isBlank (trimStart text)
  constructor
  case around =>
    refine ⟨text.takeWhile isBlank, back, ?_, ?_, hback⟩
    · rw [List.append_assoc, trim, trimEnd, ← hsplit, trimStart, List.takeWhile_append_dropWhile]
    · intro c hc
      exact List.mem_takeWhile_imp hc
  case first =>
    intro c hc
    have hfirst : c ∈ (trimStart text).head? := by
      rw [hsplit, List.head?_append, ← trimEnd, ← trim, Option.mem_def.mp hc]
      rfl
    exact not_of_mem_head?_dropWhile hfirst
  case last => exact fun c hc => not_of_mem_getLast?_dropEndWhile hc

theorem Trims.trim_eq {text inner : List Char} (h : Trims text inner) : trim text = inner := by
  obtain ⟨⟨front, back, rfl, hfront, hback⟩, hfirst, hlast⟩ := h
  rw [trim, trimStart, List.append_assoc, List.dropWhile_append_of_pos hfront]
  cases inner with
  | nil =>
    have hnone : back.dropWhile isBlank = [] := List.dropWhile_eq_nil_iff.mpr hback
    rw [List.nil_append, hnone]
    rfl
  | cons c rest =>
    have hc : isBlank c = false := hfirst c rfl
    have hkept : (c :: rest ++ back).dropWhile isBlank = c :: rest ++ back := by
      simp [hc]
    rw [hkept, trimEnd, dropEndWhile_append_of_all hback]
    obtain ⟨front, last, hsplit⟩ := List.eq_nil_or_concat' (c :: rest) |>.resolve_left (by simp)
    rw [hsplit] at hlast ⊢
    exact dropEndWhile_append_singleton (hlast last (by simp)) front

theorem trimmed_eq_iff (text inner : String) :
    trimmed text = inner ↔ Trims text.toList inner.toList := by
  rw [trimmed, ← String.toList_inj, String.toList_ofList]
  constructor
  · intro h
    rw [← h]
    exact trims_trim text.toList
  · intro h
    exact h.trim_eq

end CodeAtlas.Text
