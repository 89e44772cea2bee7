import CodeAtlas.Markup.Event
import CodeAtlas.Markup.Reference
import Mathlib.Data.List.Basic

/-!
# Escaped text

The characters that mark-up is made of are written as entities, and reading replaces these again.
-/

namespace CodeAtlas.Markup

def entityName? : Char → Option (List Char)
  | '&' => some "amp".toList
  | '<' => some "lt".toList
  | '>' => some "gt".toList
  | '"' => some "quot".toList
  | '\'' => some "apos".toList
  | _ => none

def escapeChar (c : Char) : List Char :=
  match entityName? c with
  | some name => '&' :: (name ++ [';'])
  | none => [c]

def escape (cs : List Char) : List Char := cs.flatMap escapeChar

section Entities

theorem resolve_entityName {c : Char} {name : List Char} (h : entityName? c = some name) (first : Nat) :
    resolve first name = .ok c := by
  rw [entityName?.eq_def] at h
  split at h
  all_goals cases h
  all_goals rfl

theorem isLower_of_mem_entityName {c : Char} {name : List Char} (h : entityName? c = some name) :
    ∀ d ∈ name, d.isLower := by
  apply List.all_eq_true.mp
  rw [entityName?.eq_def] at h
  split at h
  all_goals cases h
  all_goals decide

theorem ne_of_mem_entityName {c : Char} {name : List Char} (h : entityName? c = some name) :
    ∀ d ∈ name, d ≠ '&' ∧ d ≠ ';' := by
  intro d hd
  have hlower := isLower_of_mem_entityName h d hd
  constructor
  · rintro rfl
    exact absurd hlower (by decide)
  · rintro rfl
    exact absurd hlower (by decide)

theorem entityName_of_special {c : Char} (h : c = '&' ∨ c = '<' ∨ c = '>' ∨ c = '"' ∨ c = '\'') :
    entityName? c ≠ none := by
  rcases h with rfl | rfl | rfl | rfl | rfl <;> decide

theorem not_mem_escape {d : Char} (hd : d = '<' ∨ d = '>' ∨ d = '"' ∨ d = '\'') (cs : List Char) :
    d ∉ escape cs := by
  rw [escape, List.mem_flatMap]
  rintro ⟨c, -, hc⟩
  rw [escapeChar] at hc
  cases hname : entityName? c with
  | none =>
    rw [hname, List.mem_singleton] at hc
    exact entityName_of_special (Or.inr (hc ▸ hd)) hname
  | some name =>
    simp only [hname, List.mem_cons, List.mem_append, List.not_mem_nil, or_false] at hc
    have hplain : d ≠ '&' ∧ d ≠ ';' ∧ d.isLower = false := by
      rcases hd with rfl | rfl | rfl | rfl <;> decide
    obtain ⟨hamp, hsemi, hlower⟩ := hplain
    rcases hc with hc | hc | hc
    · exact hamp hc
    · rw [isLower_of_mem_entityName hname d hc] at hlower
      cases hlower
    · exact hsemi hc

end Entities

section Decoding

theorem decodeFrom_name {name : List Char} (h : ∀ d ∈ name, d ≠ '&' ∧ d ≠ ';')
    (size start position : Nat) (seen : List Char) : ∃ next, ∀ rest,
      decodeFrom size position (some (start, seen)) (name ++ ';' :: rest) =
        (resolve (start + 1) (seen.reverse ++ name)).bind fun d =>
          (decodeFrom size next none rest).map (d :: ·) := by
  induction name generalizing position seen with
  | nil =>
    refine ⟨position + ';'.utf8Size, fun rest => ?_⟩
    rw [List.nil_append, List.append_nil, decodeFrom]
    cases resolve (start + 1) seen.reverse with
    | error fault => rfl
    | ok d =>
      cases decodeFrom size (position + ';'.utf8Size) none rest <;> rfl
  | cons d name ih =>
    obtain ⟨hamp, hsemi⟩ := h d List.mem_cons_self
    obtain ⟨next, hnext⟩ := ih (fun d' hd' => h d' (List.mem_cons_of_mem _ hd'))
      (position + d.utf8Size) (d :: seen)
    refine ⟨next, fun rest => ?_⟩
    rw [List.cons_append, decodeFrom, if_neg hamp, if_neg hsemi, hnext rest]
    simp

theorem decodeFrom_escapeChar (size position : Nat) (c : Char) :
    ∃ next, ∀ rest, decodeFrom size position none (escapeChar c ++ rest) =
      (decodeFrom size next none rest).map (c :: ·) := by
  rw [escapeChar]
  cases hname : entityName? c with
  | none =>
    have hamp : c ≠ '&' := fun h => entityName_of_special (Or.inl h) hname
    refine ⟨position + c.utf8Size, fun rest => ?_⟩
    rw [List.singleton_append, decodeFrom, if_neg hamp]
  | some name =>
    obtain ⟨next, hnext⟩ := decodeFrom_name (ne_of_mem_entityName hname) size position
      (position + '&'.utf8Size) []
    refine ⟨next, fun rest => ?_⟩
    rw [List.cons_append, List.append_assoc, decodeFrom, if_pos rfl, List.singleton_append, hnext rest,
      List.reverse_nil, List.nil_append, resolve_entityName hname]
    rfl

theorem decodeFrom_escape (size position : Nat) (cs : List Char) :
    decodeFrom size position none (escape cs) = .ok cs := by
  induction cs generalizing position with
  | nil => rfl
  | cons c cs ih =>
    obtain ⟨next, hnext⟩ := decodeFrom_escapeChar size position c
    rw [escape, List.flatMap_cons, ← escape, hnext, ih]
    rfl

theorem decodeReferences_escape (cs : List Char) : decodeReferences (escape cs) = .ok cs :=
  decodeFrom_escape _ 0 cs

end Decoding

section Trimming

def Trimmed (cs : List Char) : Prop :=
  (∀ c ∈ cs.head?, isSpace c = false) ∧ ∀ c ∈ cs.getLast?, isSpace c = false

theorem dropWhile_isSpace {cs : List Char} (h : ∀ c ∈ cs.head?, isSpace c = false) :
    cs.dropWhile isSpace = cs := by
  cases cs with
  | nil => rfl
  | cons c cs => rw [List.dropWhile_cons_of_neg (by simp [h c rfl])]

theorem Trimmed.trimSpaces_eq {cs : List Char} (h : Trimmed cs) : trimSpaces cs = cs := by
  have hlast : ∀ c ∈ cs.reverse.head?, isSpace c = false := by
    rw [List.head?_reverse]
    exact h.2
  rw [trimSpaces, dropWhile_isSpace h.1, dropWhile_isSpace hlast, List.reverse_reverse]

theorem trimmed_escapeChar {c : Char} (h : isSpace c = false) :
    escapeChar c ≠ [] ∧ Trimmed (escapeChar c) := by
  rw [escapeChar]
  cases entityName? c with
  | none => simp [Trimmed, h]
  | some name =>
    have hamp : isSpace '&' = false := by decide
    have hsemi : isSpace ';' = false := by decide
    refine ⟨List.cons_ne_nil _ _, ?_, ?_⟩
    · simp [hamp]
    · simp [List.getLast?_cons, hsemi]

theorem Trimmed.escape {cs : List Char} (h : Trimmed cs) : Trimmed (escape cs) := by
  constructor
  · cases cs with
    | nil => simp [Markup.escape]
    | cons c cs =>
      obtain ⟨hne, hfirst, -⟩ := trimmed_escapeChar (h.1 c rfl)
      rw [Markup.escape, List.flatMap_cons, List.head?_append_of_ne_nil _ hne]
      exact hfirst
  · rcases List.eq_nil_or_concat' cs with rfl | ⟨cs, c, rfl⟩
    · simp [Markup.escape]
    · obtain ⟨hne, -, hlast⟩ := trimmed_escapeChar (h.2 c (by simp))
      rw [Markup.escape, List.flatMap_append, List.flatMap_singleton,
        List.getLast?_append_of_ne_nil _ hne]
      exact hlast

end Trimming

end CodeAtlas.Markup
