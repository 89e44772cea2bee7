import CodeAtlas.Proofs.Markup.Written
import Mathlib.Data.List.TakeWhile

/-!
# Divided text

A comment is an aside that divides the text it stands in. A text can be decoded just if its parts
can, as long as it is not divided inside of a reference.
-/

namespace CodeAtlas.Markup

section Comments

def writtenComment (body : List Char) : List Char := "<!--".toList ++ body ++ "-->".toList

theorem Reads.commentBody {body : List Char} (h : '-' ∉ body) :
    Reads (.comment ['-', '-']) body (.comment (body.reverse ++ ['-', '-'])) [] := by
  induction body using List.reverseRecOn with
  | nil => exact Reads.done _
  | append_singleton body c ih =>
    rw [List.mem_append, not_or] at h
    obtain ⟨hbody, hc⟩ := h
    -- The comment could end here only behind a dash of the body.
    have hgoes : ¬ (c = '>' ∧ "--".toList.isPrefixOf (body.reverse ++ ['-', '-']) ∧
        4 ≤ (body.reverse ++ ['-', '-']).length) := by
      rintro ⟨-, hprefix, hlength⟩
      cases hreversed : body.reverse with
      | nil => simp [hreversed] at hlength
      | cons d rest =>
        have hd : d ∈ body := by
          rw [← List.mem_reverse, hreversed]
          exact List.mem_cons_self
        have hdash : d = '-' := by simp_all
        exact hbody (hdash ▸ hd)
    have hstep : (ReadState.comment (body.reverse ++ ['-', '-'])).step c =
        .ok (.comment (c :: (body.reverse ++ ['-', '-'])), []) := by
      rw [ReadState.step, if_neg hgoes]
    have hlast := Reads.silent hstep (Reads.done _)
    simpa using (ih hbody).append hlast

theorem Reads.comment {body : List Char} (h : '-' ∉ body) (seen : List Char) :
    Reads (.content seen) (writtenComment body) (.content []) (textEvents seen ++ [.aside]) := by
  have hopen : Reads (.content seen) "<!--".toList (.comment ['-', '-']) (textEvents seen) := by
    have hbracket : (ReadState.content seen).step '<' = .ok (.opened, textEvents seen) := rfl
    have hbang : Reads .opened ['!', '-', '-'] (.comment ['-', '-']) [] :=
      (((Reads.done _).silent rfl).silent rfl).silent rfl
    simpa using Reads.step hbracket hbang
  have hclose :
      Reads (.comment (body.reverse ++ ['-', '-'])) "-->".toList (.content []) [.aside] := by
    have hdash (read : List Char) : (ReadState.comment read).step '-' =
        .ok (.comment ('-' :: read), []) := rfl
    have hend : (ReadState.comment ('-' :: '-' :: (body.reverse ++ ['-', '-']))).step '>' =
        .ok (.content [], [.aside]) := by
      simp [ReadState.step]
    exact ((Reads.step hend (Reads.done _)).silent (hdash _)).silent (hdash _)
  simpa [writtenComment] using (hopen.append (Reads.commentBody h)).append hclose

end Comments

section Marks

theorem step_content {s : ReadState} {c : Char} {seen : List Char} {now : List Event}
    (h : s.step c = .ok (.content seen, now)) :
    seen = [] ∨ ∃ before, s = .content before ∧ seen = c :: before ∧ now = [] := by
  cases s with
  | content before =>
    rw [ReadState.step] at h
    split at h
    case isTrue => cases h
    case isFalse =>
      cases h
      exact Or.inr ⟨before, rfl, rfl, rfl⟩
  | _ =>
    left
    simp only [ReadState.step] at h
    split_ifs at h <;> simp_all

/-- The text that stands at the end of what is read began behind some mark-up, or before all that is
read. -/
theorem Reads.content_cases {s : ReadState} {cs seen : List Char} {events : List Event}
    (h : Reads s cs (.content seen) events) :
    (∃ head, cs = head ++ seen.reverse ∧ Reads s head (.content []) events) ∨
      ∃ before, s = .content before ∧ seen = cs.reverse ++ before ∧ events = [] := by
  generalize hlast : ReadState.content seen = last at h
  induction h with
  | done => exact Or.inr ⟨seen, hlast.symm, rfl, rfl⟩
  | @step s t u c cs now later hstep _ ih =>
    rcases ih hlast with ⟨head, rfl, hreads⟩ | ⟨before, rfl, rfl, rfl⟩
    · exact Or.inl ⟨c :: head, rfl, Reads.step hstep hreads⟩
    · rcases step_content hstep with rfl | ⟨first, rfl, rfl, rfl⟩
      · exact Or.inl ⟨[c], by simp, Reads.step hstep (Reads.done _)⟩
      · exact Or.inr ⟨first, rfl, by simp, rfl⟩

theorem Reads.exists_head {cs seen : List Char} {events : List Event}
    (h : Reads (.content []) cs (.content seen) events) :
    ∃ head, cs = head ++ seen.reverse ∧ Reads (.content []) head (.content []) events := by
  rcases h.content_cases with hhead | ⟨before, hbefore, rfl, rfl⟩
  · exact hhead
  · cases hbefore
    exact ⟨[], by simp, Reads.done _⟩

theorem exists_withoutMark_eq {cs inner last : List Char} (h : withoutMark cs = inner ++ last)
    (hne : inner ≠ []) : ∃ head, cs = head ++ last ∧ withoutMark head = inner := by
  obtain ⟨c, inner, rfl⟩ := List.exists_cons_of_ne_nil hne
  cases cs with
  | nil => simp [withoutMark] at h
  | cons d cs =>
    by_cases hmark : d = '\ufeff'
    · subst hmark
      exact ⟨'\ufeff' :: c :: inner, by simpa [withoutMark] using h, rfl⟩
    · have hkept (rest : List Char) : withoutMark (d :: rest) = d :: rest := by
        rw [withoutMark.eq_def]
        simp [hmark]
      rw [hkept] at h
      obtain ⟨rfl, rfl⟩ := List.cons.inj h
      exact ⟨d :: inner, rfl, hkept inner⟩

end Marks

section Spaces

theorem trimSpaces_append_of_blank_left {xs : List Char} (h : ∀ c ∈ xs, isSpace c)
    (ys : List Char) : trimSpaces (xs ++ ys) = trimSpaces ys := by
  rw [trimSpaces, List.dropWhile_append_of_pos h, ← trimSpaces]

theorem trimSpaces_append_of_blank_right {ys : List Char} (h : ∀ c ∈ ys, isSpace c)
    (xs : List Char) : trimSpaces (xs ++ ys) = trimSpaces xs := by
  have hreversed : ∀ c ∈ ys.reverse, isSpace c := by simpa using h
  rw [trimSpaces, trimSpaces, List.dropWhile_append]
  split
  case isTrue hempty =>
    rw [List.isEmpty_iff.mp hempty, List.dropWhile_eq_nil_iff.mpr h]
  case isFalse =>
    rw [List.reverse_append, List.dropWhile_append_of_pos hreversed]

theorem exists_trimSpaces (cs : List Char) : ∃ before after,
    cs = before ++ (trimSpaces cs ++ after) ∧ (∀ c ∈ before, isSpace c) ∧ ∀ c ∈ after, isSpace c := by
  refine ⟨cs.takeWhile isSpace, ((cs.dropWhile isSpace).reverse.takeWhile isSpace).reverse, ?_, ?_, ?_⟩
  · rw [trimSpaces, ← List.reverse_append, List.takeWhile_append_dropWhile, List.reverse_reverse,
      List.takeWhile_append_dropWhile]
  · intro c hc
    exact List.mem_takeWhile_imp hc
  · intro c hc
    exact List.mem_takeWhile_imp (List.mem_reverse.mp hc)

theorem trimSpaces_eq_nil_iff (cs : List Char) : trimSpaces cs = [] ↔ ∀ c ∈ cs, isSpace c := by
  constructor
  · intro h c hc
    obtain ⟨before, after, hcs, hbefore, hafter⟩ := exists_trimSpaces cs
    rw [hcs, h, List.nil_append] at hc
    exact (List.mem_append.mp hc).elim (hbefore c) (hafter c)
  · intro h
    simpa [trimSpaces] using trimSpaces_append_of_blank_left h []

theorem textEvents_reverse_of_blank {cs : List Char} (h : ∀ c ∈ cs, isSpace c) :
    textEvents cs.reverse = [] := by
  rw [textEvents, List.reverse_reverse, (trimSpaces_eq_nil_iff cs).mpr h]

theorem textEvents_reverse_of_not_blank {cs : List Char} (h : ¬ ∀ c ∈ cs, isSpace c) :
    textEvents cs.reverse = [.text (trimSpaces cs)] := by
  rw [textEvents, List.reverse_reverse]
  split
  case h_1 hnil => exact absurd ((trimSpaces_eq_nil_iff cs).mp hnil) h
  case h_2 => rfl

theorem textEvents_append_of_blank_left {xs : List Char} (h : ∀ c ∈ xs, isSpace c)
    (ys : List Char) : textEvents (xs ++ ys).reverse = textEvents ys.reverse := by
  rw [textEvents, textEvents, List.reverse_reverse, List.reverse_reverse,
    trimSpaces_append_of_blank_left h]

theorem textEvents_append_of_blank_right {ys : List Char} (h : ∀ c ∈ ys, isSpace c)
    (xs : List Char) : textEvents (xs ++ ys).reverse = textEvents xs.reverse := by
  rw [textEvents, textEvents, List.reverse_reverse, List.reverse_reverse,
    trimSpaces_append_of_blank_right h]

end Spaces

section References

/-- Every ampersand begins a reference that stands for some character. -/
inductive Resolves : List Char → Prop where
  | nil : Resolves []
  | plain {c : Char} {rest : List Char} (hc : c ≠ '&') (hrest : Resolves rest) :
      Resolves (c :: rest)
  | reference {name rest : List Char} (hname : ∀ c ∈ name, c ≠ '&' ∧ c ≠ ';')
      (hresolve : ∃ c, resolve 0 name = .ok c) (hrest : Resolves rest) :
      Resolves ('&' :: (name ++ ';' :: rest))

/-- A text is divided between an ampersand and the semicolon of its reference. -/
def DividesReference (left right : List Char) : Prop :=
  ∃ before name name' after, left = before ++ '&' :: name ∧ right = name' ++ ';' :: after ∧
    ∀ c ∈ name ++ name', c ≠ '&' ∧ c ≠ ';'

theorem DividesReference.append_left {left right : List Char} (h : DividesReference left right)
    (front : List Char) : DividesReference (front ++ left) right := by
  obtain ⟨before, name, name', after, rfl, hright, hname⟩ := h
  exact ⟨front ++ before, name, name', after, by simp, hright, hname⟩

theorem resolve_of_resolve {first : Nat} {name : List Char} {c : Char} (h : resolve first name = .ok c)
    (first' : Nat) : resolve first' name = .ok c := by
  rw [resolve.eq_def] at h ⊢
  split at h
  case h_1 => exact h
  case h_2 hnumber =>
    cases hname : predefinedEntity? name with
    | none => simp [hname] at h
    | some d => simpa [hname] using h

theorem resolves_of_decodeFrom (size : Nat) (raw : List Char) :
    (∀ position text, decodeFrom size position none raw = .ok text → Resolves raw) ∧
      ∀ position start seen text, decodeFrom size position (some (start, seen)) raw = .ok text →
        ∃ name rest, raw = name ++ ';' :: rest ∧ (∀ c ∈ name, c ≠ '&' ∧ c ≠ ';') ∧
          (∃ c, resolve 0 (seen.reverse ++ name) = .ok c) ∧ Resolves rest := by
  induction raw with
  | nil =>
    constructor
    · intro _ _ _
      exact Resolves.nil
    · intro position start seen text h
      simp [decodeFrom] at h
  | cons c rest ih =>
    obtain ⟨ihplain, ihopened⟩ := ih
    constructor
    · intro position text h
      rw [decodeFrom] at h
      split at h
      case isTrue hamp =>
        obtain ⟨name, after, rfl, hname, hresolve, hafter⟩ := ihopened _ _ _ _ h
        exact hamp ▸ Resolves.reference hname hresolve hafter
      case isFalse hamp =>
        cases hrest : decodeFrom size (position + c.utf8Size) none rest with
        | error fault => simp [hrest, Except.map] at h
        | ok text' => exact Resolves.plain hamp (ihplain _ _ hrest)
    · intro position start seen text h
      rw [decodeFrom] at h
      split at h
      case isTrue => cases h
      case isFalse hamp =>
        split at h
        case isTrue hsemi =>
          obtain ⟨d, hd, h⟩ := (bind_eq_ok_iff _ _ _).mp h
          obtain ⟨text', htext, -⟩ := (bind_eq_ok_iff _ _ _).mp h
          refine ⟨[], rest, by rw [hsemi]; rfl, by simp, ⟨d, ?_⟩, ihplain _ _ htext⟩
          rw [List.append_nil]
          exact resolve_of_resolve hd 0
        case isFalse hsemi =>
          obtain ⟨name, after, rfl, hname, hresolve, hafter⟩ := ihopened _ _ _ _ h
          refine ⟨c :: name, after, rfl, ?_, by simpa using hresolve, hafter⟩
          intro d hd
          rcases List.mem_cons.mp hd with rfl | hd
          · exact ⟨hamp, hsemi⟩
          · exact hname d hd

theorem Resolves.exists_decodeFrom {raw : List Char} (h : Resolves raw) (size position : Nat) :
    ∃ text, decodeFrom size position none raw = .ok text := by
  induction h generalizing position with
  | nil => exact ⟨[], rfl⟩
  | @plain c rest hc _ ih =>
    obtain ⟨text, htext⟩ := ih (position + c.utf8Size)
    refine ⟨c :: text, ?_⟩
    rw [decodeFrom, if_neg hc, htext]
    rfl
  | @reference name rest hname hresolve _ ih =>
    obtain ⟨c, hc⟩ := hresolve
    obtain ⟨next, hnext⟩ := decodeFrom_name hname size position (position + '&'.utf8Size) []
    obtain ⟨text, htext⟩ := ih next
    refine ⟨c :: text, ?_⟩
    rw [decodeFrom, if_pos rfl, hnext, List.reverse_nil, List.nil_append,
      resolve_of_resolve hc (position + 1), htext]
    rfl

theorem exists_decodeReferences_iff (raw : List Char) :
    (∃ text, decodeReferences raw = .ok text) ↔ Resolves raw := by
  constructor
  · rintro ⟨text, h⟩
    exact (resolves_of_decodeFrom _ raw).1 _ _ h
  · intro h
    exact h.exists_decodeFrom _ _

namespace Resolves

variable {xs ys : List Char}

theorem of_not_mem {cs : List Char} (h : '&' ∉ cs) : Resolves cs := by
  induction cs with
  | nil => exact nil
  | cons c cs ih =>
    rw [List.mem_cons, not_or] at h
    exact plain (Ne.symm h.1) (ih h.2)

theorem append (hxs : Resolves xs) (hys : Resolves ys) : Resolves (xs ++ ys) := by
  induction hxs with
  | nil => exact hys
  | plain hc _ ih => exact plain hc ih
  | reference hname hresolve _ ih => simpa using reference hname hresolve ih

theorem of_append (h : Resolves (xs ++ ys)) (hwhole : ¬ DividesReference xs ys) :
    Resolves xs ∧ Resolves ys := by
  generalize hcs : xs ++ ys = cs at h
  induction h generalizing xs with
  | nil =>
    obtain ⟨rfl, rfl⟩ := List.append_eq_nil_iff.mp hcs
    exact ⟨nil, nil⟩
  | @plain c rest hc hrest ih =>
    cases xs with
    | nil =>
      rw [List.nil_append] at hcs
      exact ⟨nil, hcs ▸ plain hc hrest⟩
    | cons d xs =>
      obtain ⟨rfl, htail⟩ := List.cons.inj hcs
      obtain ⟨hxs, hys⟩ := ih (fun hdivides => hwhole (hdivides.append_left [d])) htail
      exact ⟨plain hc hxs, hys⟩
  | @reference name rest hname hresolve hrest ih =>
    cases xs with
    | nil =>
      rw [List.nil_append] at hcs
      exact ⟨nil, hcs ▸ reference hname hresolve hrest⟩
    | cons d xs =>
      obtain ⟨rfl, htail⟩ := List.cons.inj hcs
      -- The text is divided in the name, at its semicolon or behind that.
      rcases List.append_eq_append_iff.mp htail with ⟨more, rfl, rfl⟩ | ⟨more, rfl, hmore⟩
      · exact absurd ⟨[], xs, more, rest, rfl, rfl, hname⟩ hwhole
      · cases more with
        | nil =>
          have hright : ys = [] ++ ';' :: rest := hmore.symm
          exact absurd ⟨[], name, [], rest, by simp, hright, by simpa using hname⟩ hwhole
        | cons e more =>
          obtain ⟨rfl, rfl⟩ := List.cons.inj hmore
          have hwhole' : ¬ DividesReference more ys := by
            intro hdivides
            apply hwhole
            simpa using hdivides.append_left ('&' :: (name ++ [';']))
          obtain ⟨hxs, hys⟩ := ih hwhole' rfl
          exact ⟨reference hname hresolve hxs, hys⟩

theorem of_blank {cs : List Char} (h : ∀ c ∈ cs, isSpace c) : Resolves cs :=
  of_not_mem fun hc => absurd (h _ hc) (by decide)

theorem trimSpaces_iff (cs : List Char) : Resolves (trimSpaces cs) ↔ Resolves cs := by
  obtain ⟨before, after, hcs, hbefore, hafter⟩ := exists_trimSpaces cs
  constructor
  · intro h
    rw [hcs]
    exact (of_blank hbefore).append (h.append (of_blank hafter))
  · intro h
    rw [hcs] at h
    have hfirst : ¬ DividesReference before (trimSpaces cs ++ after) := by
      rintro ⟨front, name, -, -, hbegin, -, -⟩
      exact absurd (hbefore '&' (by simp [hbegin])) (by decide)
    have hsecond : ¬ DividesReference (trimSpaces cs) after := by
      rintro ⟨-, -, name', rest, -, hend, -⟩
      exact absurd (hafter ';' (by simp [hend])) (by decide)
    exact ((h.of_append hfirst).2.of_append hsecond).1

end Resolves

end References

end CodeAtlas.Markup
