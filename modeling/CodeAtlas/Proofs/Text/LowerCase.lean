import CodeAtlas.Text.Case
import CodeAtlas.Text.Search
import Mathlib.Data.List.Infix

/-!
# Lower-casing a stretch of a text

Only a capital sigma looks at what stands around it. A stretch of a text is therefore lower-cased within
the text as it is alone, just if each of its capital sigmas ends a word of the text where it ends a word
of the stretch.
-/

namespace CodeAtlas

namespace Text

theorem occursIn_iff (needle text : List Char) : occursIn needle text = true ↔ needle <:+: text := by
  induction text with
  | nil => rw [occursIn, List.isEmpty_iff, List.infix_nil]
  | cons c text ih =>
    rw [occursIn, Bool.or_eq_true, List.isPrefixOf_iff_prefix, ih, List.infix_cons_iff]

/-- Whether a capital sigma between two texts is the last letter of a word; `before` holds what precedes
it, nearest first. -/
def endsWord (before after : List Char) : Bool := meetsCased before && !meetsCased after

def lowerBetween (before after : List Char) : List Char → List Char
  | [] => []
  | c :: rest =>
    (if c.toNat = 0x3a3 then [if endsWord before (rest ++ after) then '\u03c2' else '\u03c3']
    else lowerChar c) ++ lowerBetween (c :: before) after rest

def sigmaEnds (before after : List Char) : List Char → List Bool
  | [] => []
  | c :: rest =>
    (if c.toNat = 0x3a3 then [endsWord before (rest ++ after)] else []) ++
      sigmaEnds (c :: before) after rest

theorem lowerAfter_append (before xs ys : List Char) :
    lowerAfter before (xs ++ ys) =
      lowerBetween before ys xs ++ lowerAfter (xs.reverse ++ before) ys := by
  induction xs generalizing before with
  | nil => rfl
  | cons c xs ih =>
    rw [List.cons_append, lowerAfter, lowerBetween, ih, List.reverse_cons, List.append_assoc,
      List.append_assoc, List.singleton_append]
    rfl

theorem lowerBetween_nil (before cs : List Char) :
    lowerBetween before [] cs = lowerAfter before cs := by
  have happend := lowerAfter_append before cs []
  rw [lowerAfter, List.append_nil, List.append_nil] at happend
  exact happend.symm

/-- Between other texts a stretch is lower-cased alike just if its capital sigmas end words alike. -/
theorem lowerBetween_eq_iff (before after before' after' cs : List Char) :
    lowerBetween before after cs = lowerBetween before' after' cs ↔
      sigmaEnds before after cs = sigmaEnds before' after' cs := by
  induction cs generalizing before before' with
  | nil => exact iff_of_true rfl rfl
  | cons c cs ih =>
    simp only [lowerBetween, sigmaEnds]
    by_cases hc : c.toNat = 0x3a3
    · have hform (b b' : Bool) :
          (if b then '\u03c2' else '\u03c3') = (if b' then '\u03c2' else '\u03c3') ↔ b = b' := by
        cases b <;> cases b' <;> decide
      simp only [hc, if_true, List.singleton_append, List.cons.injEq, hform, ih]
    · simp only [hc, if_false, List.append_cancel_left_eq, ih]

theorem sigmaEnds_eq_nil {cs : List Char} (h : 'Σ' ∉ cs) (before after : List Char) :
    sigmaEnds before after cs = [] := by
  induction cs generalizing before with
  | nil => rfl
  | cons c cs ih =>
    rw [List.mem_cons, not_or] at h
    have hc : c.toNat ≠ 0x3a3 := fun hcode => h.1 (Char.toNat_inj.mp hcode.symm)
    rw [sigmaEnds, if_neg hc, List.nil_append, ih h.2]

/-- The piece stands somewhere in the text, and its capital sigmas end words there where they do in the
piece alone. -/
def StandsIn (piece text : List Char) : Prop :=
  ∃ before after, text = before ++ (piece ++ after) ∧
    sigmaEnds before.reverse after piece = sigmaEnds [] [] piece

theorem standsIn_of_infix {piece text : List Char} (h : piece <:+: text) (hpiece : 'Σ' ∉ piece) :
    StandsIn piece text := by
  obtain ⟨before, after, rfl⟩ := h
  refine ⟨before, after, List.append_assoc _ _ _, ?_⟩
  rw [sigmaEnds_eq_nil hpiece, sigmaEnds_eq_nil hpiece]

theorem StandsIn.lowerChars_infix {piece text : List Char} (h : StandsIn piece text) :
    lowerChars piece <:+: lowerChars text := by
  obtain ⟨before, after, rfl, hends⟩ := h
  have hpiece : lowerBetween before.reverse after piece = lowerChars piece := by
    rw [(lowerBetween_eq_iff _ _ _ _ _).mpr hends, lowerBetween_nil, lowerChars]
  have htext : lowerChars (before ++ (piece ++ after)) =
      lowerBetween [] (piece ++ after) before ++
        (lowerChars piece ++ lowerAfter (piece.reverse ++ before.reverse) after) := by
    rw [lowerChars, lowerAfter_append, List.append_nil, lowerAfter_append, hpiece]
  exact ⟨_, _, (List.append_assoc _ _ _).trans htext.symm⟩

example : sigmaEnds [] [] "ΟΔΟΣ".toList = [true] ∧ sigmaEnds [] ".Β".toList "ΟΔΟΣ".toList = [false] := by
  decide +kernel

end Text

end CodeAtlas
