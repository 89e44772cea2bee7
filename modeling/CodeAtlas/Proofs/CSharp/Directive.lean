import CodeAtlas.CSharp.UsingTarget
import CodeAtlas.Proofs.Text.Trim
import Mathlib.Data.List.Induction

/-!
# Using directives as they are written

Modifiers, an alias and white space may stand around the target of a using directive in many ways.
The target is read off all of them.
-/

namespace CodeAtlas.CSharp

open Text

section Directives

def IsBlankRun (space : List Char) : Prop := ∀ c ∈ space, isBlank c

def Begins (text : List Char) : Prop := ∃ c rest, text = c :: rest ∧ isBlank c = false

/-- Keywords in any order and number, each followed by white space. -/
inductive Modifiers : List Char → Prop where
  | last {keyword : List Char} {c : Char} {space : List Char} (hkeyword : keyword ∈ usingKeywords)
      (hc : isBlank c) (hspace : IsBlankRun space) : Modifiers (keyword ++ c :: space)
  | more {keyword : List Char} {c : Char} {space rest : List Char}
      (hkeyword : keyword ∈ usingKeywords) (hc : isBlank c) (hspace : IsBlankRun space)
      (hrest : Modifiers rest) : Modifiers (keyword ++ c :: (space ++ rest))

/-- A target by itself or behind an alias. By itself it does not look like a modifier or an alias. -/
inductive Named (target : List Char) : List Char → Prop where
  | plain (hequals : '=' ∉ target)
      (hkeyword : ∀ keyword ∈ usingKeywords, ∀ rest, target = keyword ++ rest → Begins rest) :
      Named target target
  | renamed {short before after : List Char} (hequals : '=' ∉ short) (hblank : ¬ IsBlankRun short)
      (hbefore : IsBlankRun before) (hafter : IsBlankRun after) :
      Named target (short ++ before ++ '=' :: (after ++ target))

inductive Ending : List Char → Prop where
  | space {space : List Char} (hspace : IsBlankRun space) : Ending space
  | semicolon {before after : List Char} (hbefore : IsBlankRun before) (hafter : IsBlankRun after) :
      Ending (before ++ ';' :: after)

inductive Imports (target : List Char) : List Char → Prop where
  | intro {space modifiers named ending : List Char} (hspace : IsBlankRun space)
      (hmodifiers : Modifiers modifiers) (hnamed : Named target named) (hending : Ending ending)
      (hbegins : Begins target) (hends : (squeeze target).getLast? ≠ some ';') :
      Imports target (space ++ modifiers ++ named ++ ending)

end Directives

section Ends

theorem IsBlankRun.nil : IsBlankRun [] := List.forall_mem_nil _

theorem IsBlankRun.singleton {c : Char} (h : isBlank c) : IsBlankRun [c] :=
  List.forall_mem_singleton.mpr h

theorem IsBlankRun.append {xs ys : List Char} (hxs : IsBlankRun xs) (hys : IsBlankRun ys) :
    IsBlankRun (xs ++ ys) := by
  intro c hc
  exact (List.mem_append.mp hc).elim (hxs c) (hys c)

theorem trimStart_append {space : List Char} (h : IsBlankRun space) (text : List Char) :
    trimStart (space ++ text) = trimStart text := List.dropWhile_append_of_pos h

theorem Begins.append {text : List Char} (h : Begins text) (more : List Char) :
    Begins (text ++ more) := by
  obtain ⟨c, rest, rfl, hc⟩ := h
  exact ⟨c, rest ++ more, rfl, hc⟩

theorem Begins.trimStart_eq {text : List Char} (h : Begins text) : trimStart text = text := by
  obtain ⟨c, rest, rfl, hc⟩ := h
  simp [trimStart, hc]

theorem squeeze_eq_nil {space : List Char} (h : IsBlankRun space) : squeeze space = [] := by
  simpa [squeeze, IsBlankRun] using h

theorem Begins.squeeze_ne_nil {text : List Char} (h : Begins text) : squeeze text ≠ [] := by
  obtain ⟨c, rest, rfl, hc⟩ := h
  simp [squeeze, hc]

theorem Begins.exists_last {text : List Char} (h : Begins text) :
    ∃ front last tail, text = front ++ [last] ++ tail ∧ isBlank last = false ∧ IsBlankRun tail ∧
      Begins (front ++ [last]) := by
  obtain ⟨c, rest, rfl, hc⟩ := h
  induction rest using List.reverseRecOn with
  | nil => exact ⟨[], c, [], rfl, hc, .nil, c, [], rfl, hc⟩
  | append_singleton rest d ih =>
    cases hd : isBlank d with
    | false => exact ⟨c :: rest, d, [], by simp, hd, .nil, c, rest ++ [d], rfl, hc⟩
    | true =>
      obtain ⟨front, last, tail, heq, hlast, htail, hbegins⟩ := ih
      refine ⟨front, last, tail ++ [d], ?_, hlast, htail.append (.singleton hd), hbegins⟩
      rw [← List.append_assoc, ← heq, List.cons_append]

theorem Begins.trim_eq {front : List Char} {last : Char} (h : Begins (front ++ [last]))
    (hlast : isBlank last = false) {tail : List Char} (htail : IsBlankRun tail) :
    trim (front ++ [last] ++ tail) = front ++ [last] := by
  rw [trim, (h.append tail).trimStart_eq, trimEnd, dropEndWhile_append_of_all htail,
    dropEndWhile_append_singleton hlast]

theorem dropEndWhile_semicolon {front run : List Char} {last : Char} (hlast : last ≠ ';')
    (hrun : IsBlankRun run) :
    dropEndWhile (· == ';') (front ++ [last] ++ run) = front ++ [last] ++ run := by
  rcases List.eq_nil_or_concat' run with rfl | ⟨run, c, rfl⟩
  · rw [List.append_nil]
    exact dropEndWhile_append_singleton (by simpa using hlast) front
  · have hc : isBlank c := hrun c (by simp)
    have hne : c ≠ ';' := by
      rintro rfl
      exact absurd hc (by decide)
    rw [← List.append_assoc]
    exact dropEndWhile_append_singleton (by simpa using hne) _

theorem Ending.trim_eq {ending : List Char} (h : Ending ending) {space front tail : List Char}
    {last : Char} (hspace : IsBlankRun space) (hbegins : Begins (front ++ [last]))
    (hlast : isBlank last = false) (hsemicolon : last ≠ ';') (htail : IsBlankRun tail) :
    trim (dropEndWhile (· == ';') (trim (space ++ (front ++ [last] ++ tail ++ ending)))) =
      front ++ [last] := by
  have hstart : trim (space ++ (front ++ [last] ++ tail ++ ending)) =
      trim (front ++ [last] ++ tail ++ ending) := by
    rw [trim, trim, trimStart_append hspace]
  rw [hstart]
  cases h with
  | space hspace' =>
    have hkept := @dropEndWhile_semicolon front [] last hsemicolon .nil
    have hagain := hbegins.trim_eq hlast .nil
    rw [List.append_nil] at hkept hagain
    rw [List.append_assoc _ tail, hbegins.trim_eq hlast (htail.append hspace'), hkept, hagain]
  | @semicolon before after hbefore hafter =>
    have hregroup : front ++ [last] ++ tail ++ (before ++ ';' :: after) =
        (front ++ [last] ++ (tail ++ before)) ++ [';'] ++ after := by simp
    have hwhole : Begins (front ++ [last] ++ (tail ++ before) ++ [';']) :=
      (hbegins.append _).append _
    have hrun := htail.append hbefore
    rw [hregroup, hwhole.trim_eq (by decide) hafter, dropEndWhile_append_of_all (by simp),
      dropEndWhile_semicolon hsemicolon hrun, hbegins.trim_eq hlast hrun]

end Ends

section Keywords

theorem isLower_of_mem_usingKeywords {keyword : List Char} (h : keyword ∈ usingKeywords) :
    ∀ c ∈ keyword, c.isLower := by
  apply List.all_eq_true.mp
  simp only [usingKeywords, List.mem_cons, List.not_mem_nil, or_false] at h
  rcases h with rfl | rfl | rfl | rfl <;> decide

theorem isBlank_of_isLower {c : Char} (h : c.isLower) : isBlank c = false := by
  have hrange : (decide (97 ≤ c.val) && decide (c.val ≤ 122)) = true := h
  simp only [Bool.and_eq_true, decide_eq_true_eq, UInt32.le_iff_toNat_le] at hrange
  have hlow : 97 ≤ c.toNat := hrange.1
  have hhigh : c.toNat ≤ 122 := hrange.2
  simp only [isBlank, Bool.or_eq_false_iff, Bool.and_eq_false_iff, decide_eq_false_iff_not,
    beq_eq_false_iff_ne]
  omega

theorem begins_of_mem_usingKeywords {keyword : List Char} (h : keyword ∈ usingKeywords) :
    Begins keyword := by
  cases keyword with
  | nil => simp [usingKeywords] at h
  | cons c rest =>
    exact ⟨c, rest, rfl, isBlank_of_isLower (isLower_of_mem_usingKeywords h c List.mem_cons_self)⟩

theorem squeeze_of_mem_usingKeywords {keyword : List Char} (h : keyword ∈ usingKeywords) :
    squeeze keyword = keyword := by
  rw [squeeze, List.filter_eq_self]
  intro c hc
  simp [isBlank_of_isLower (isLower_of_mem_usingKeywords h c hc)]

theorem not_mem_of_mem_usingKeywords {keyword : List Char} (h : keyword ∈ usingKeywords) :
    '=' ∉ keyword :=
  fun hc => absurd (isLower_of_mem_usingKeywords h _ hc) (by decide)

theorem stripKeyword?_append_cons {keyword : List Char} {c : Char} (hc : isBlank c)
    (rest : List Char) : stripKeyword? (keyword ++ c :: rest) keyword = some (trimStart rest) := by
  have hprefix : keyword.isPrefixOf (keyword ++ c :: rest) := by simp
  simp [stripKeyword?, hprefix, hc]

theorem stripKeyword?_eq_none_iff (text keyword : List Char) : stripKeyword? text keyword = none ↔
    ∀ rest, text = keyword ++ rest → Begins rest := by
  constructor
  · rintro h rest rfl
    cases rest with
    | nil => simp [stripKeyword?] at h
    | cons c rest =>
      refine ⟨c, rest, rfl, ?_⟩
      cases hc : isBlank c with
      | false => rfl
      | true =>
        rw [stripKeyword?_append_cons hc] at h
        contradiction
  · intro h
    rw [stripKeyword?]
    split
    case isFalse => rfl
    case isTrue hprefix =>
      obtain ⟨rest, rfl⟩ := List.isPrefixOf_iff_prefix.mp hprefix
      obtain ⟨c, rest, rfl, hc⟩ := h rest rfl
      simp [hc]

theorem exists_of_stripAnyKeyword? {text rest : List Char} (h : stripAnyKeyword? text = some rest) :
    ∃ keyword ∈ usingKeywords, ∃ after, text = keyword ++ after ∧ rest = trimStart after := by
  obtain ⟨keyword, hkeyword, hstrip⟩ := List.exists_of_findSome?_eq_some h
  refine ⟨keyword, hkeyword, ?_⟩
  rw [stripKeyword?] at hstrip
  split at hstrip
  case isFalse => contradiction
  case isTrue hprefix =>
    obtain ⟨after, rfl⟩ := List.isPrefixOf_iff_prefix.mp hprefix
    refine ⟨after, rfl, ?_⟩
    cases after with
    | nil => simpa [trimStart] using hstrip.symm
    | cons c after =>
      cases hc : isBlank c with
      | false => simp [hc] at hstrip
      | true => simpa [trimStart, hc] using hstrip.symm

theorem eq_of_append_eq_append {keyword keyword' : List Char} (h : keyword ∈ usingKeywords)
    (h' : keyword' ∈ usingKeywords) {rest rest' : List Char}
    (heq : keyword ++ rest = keyword' ++ rest') : keyword = keyword' ∧ rest = rest' := by
  simp only [usingKeywords, List.mem_cons, List.not_mem_nil, or_false] at h h'
  rcases h with rfl | rfl | rfl | rfl <;> rcases h' with rfl | rfl | rfl | rfl <;> simp_all

theorem stripAnyKeyword?_append_cons {keyword : List Char} (hkeyword : keyword ∈ usingKeywords)
    {c : Char} (hc : isBlank c) (rest : List Char) :
    stripAnyKeyword? (keyword ++ c :: rest) = some (trimStart rest) := by
  cases hstrip : stripAnyKeyword? (keyword ++ c :: rest) with
  | none =>
    have hnone := List.findSome?_eq_none_iff.mp hstrip keyword hkeyword
    rw [stripKeyword?_append_cons hc] at hnone
    contradiction
  | some found =>
    obtain ⟨keyword', hkeyword', after, heq, rfl⟩ := exists_of_stripAnyKeyword? hstrip
    obtain ⟨-, rfl⟩ := eq_of_append_eq_append hkeyword hkeyword' heq
    simp [trimStart, hc]

theorem stripKeywords_of_some {text rest : List Char} (h : stripAnyKeyword? text = some rest) :
    stripKeywords text = stripKeywords rest := by
  rw [stripKeywords]
  split <;> simp_all

theorem stripKeywords_of_none {text : List Char} (h : stripAnyKeyword? text = none) :
    stripKeywords text = text := by
  rw [stripKeywords]
  split <;> simp_all

theorem Modifiers.begins {modifiers : List Char} (h : Modifiers modifiers) : Begins modifiers := by
  cases h with
  | last hkeyword => exact (begins_of_mem_usingKeywords hkeyword).append _
  | more hkeyword => exact (begins_of_mem_usingKeywords hkeyword).append _

theorem Modifiers.stripKeywords_append {modifiers : List Char} (h : Modifiers modifiers)
    (text : List Char) : stripKeywords (modifiers ++ text) = stripKeywords (trimStart text) := by
  induction h with
  | last hkeyword hc hspace =>
    rw [List.append_assoc, List.cons_append,
      stripKeywords_of_some (stripAnyKeyword?_append_cons hkeyword hc _), trimStart_append hspace]
  | more hkeyword hc hspace hrest ih =>
    rw [List.append_assoc, List.cons_append, List.append_assoc,
      stripKeywords_of_some (stripAnyKeyword?_append_cons hkeyword hc _), trimStart_append hspace,
      (hrest.begins.append text).trimStart_eq, ih]

end Keywords

section Alias

theorem trimStart_append_equals (front target : List Char) :
    trimStart (front ++ '=' :: target) = trimStart front ++ '=' :: target := by
  rw [trimStart, List.dropWhile_append]
  split
  case isTrue h =>
    rw [trimStart, List.isEmpty_iff.mp h]
    rfl
  case isFalse => rfl

theorem not_mem_trimStart {front : List Char} {c : Char} (h : c ∉ front) : c ∉ trimStart front :=
  fun hc => h ((List.dropWhile_suffix _).subset hc)

theorem stripAlias_append {front : List Char} (h : '=' ∉ front) (target : List Char) :
    stripAlias (front ++ '=' :: target) = target := by
  have hfront : ∀ c ∈ front, c != '=' := by
    intro c hc
    exact bne_iff_ne.mpr fun heq => h (heq ▸ hc)
  rw [stripAlias, List.dropWhile_append_of_pos hfront]
  rfl

theorem stripAlias_of_not_mem {text : List Char} (h : '=' ∉ text) : stripAlias text = text := by
  have hdrop : text.dropWhile (· != '=') = [] := by
    rw [List.dropWhile_eq_nil_iff]
    intro c hc
    exact bne_iff_ne.mpr fun heq => h (heq ▸ hc)
  rw [stripAlias, hdrop]

theorem exists_of_append_equals {keyword front target after : List Char} (hkeyword : '=' ∉ keyword)
    (h : front ++ '=' :: target = keyword ++ after) :
    ∃ more, front = keyword ++ more ∧ after = more ++ '=' :: target := by
  rcases List.append_eq_append_iff.mp h with ⟨more, rfl, hmore⟩ | ⟨more, rfl, rfl⟩
  · cases more with
    | nil => exact ⟨[], by simp, by simpa using hmore.symm⟩
    | cons c more =>
      obtain ⟨rfl, -⟩ := List.cons.inj hmore
      exact absurd (by simp) hkeyword
  · exact ⟨more, rfl, rfl⟩

theorem stripAlias_stripKeywords (target front : List Char) (h : '=' ∉ front) :
    stripAlias (stripKeywords (front ++ '=' :: target)) = target := by
  generalize htext : front ++ '=' :: target = text
  fun_induction stripKeywords text generalizing front with
  | case1 text rest hstrip ih =>
    obtain ⟨keyword, hkeyword, after, heq, rfl⟩ := exists_of_stripAnyKeyword? hstrip
    obtain ⟨more, rfl, rfl⟩ :=
      exists_of_append_equals (not_mem_of_mem_usingKeywords hkeyword) (htext.trans heq)
    exact ih (trimStart more) (not_mem_trimStart fun hc => h (List.mem_append_right _ hc))
      (trimStart_append_equals more target).symm
  | case2 text hstrip =>
    subst htext
    exact stripAlias_append h target

end Alias

section Targets

theorem Begins.of_keyword {keyword rest : List Char} (hkeyword : keyword ∈ usingKeywords)
    (h : Begins rest) : ∀ keyword' ∈ usingKeywords, ∀ rest', keyword ++ rest = keyword' ++ rest' →
      Begins rest' := by
  intro keyword' hkeyword' rest' heq
  obtain ⟨-, rfl⟩ := eq_of_append_eq_append hkeyword hkeyword' heq
  exact h

theorem stripAnyKeyword?_eq_none {text tail : List Char}
    (h : ∀ keyword ∈ usingKeywords, ∀ rest, text ++ tail = keyword ++ rest → Begins rest)
    (htail : IsBlankRun tail) : stripAnyKeyword? text = none := by
  refine List.findSome?_eq_none_iff.mpr fun keyword hkeyword => ?_
  refine (stripKeyword?_eq_none_iff _ _).mpr fun rest heq => ?_
  obtain ⟨c, behind, hcons, hc⟩ := h keyword hkeyword (rest ++ tail) (by simp [heq])
  cases rest with
  | nil =>
    have hblank : isBlank c := htail c (by simp_all)
    rw [hc] at hblank
    contradiction
  | cons d rest =>
    obtain ⟨rfl, -⟩ := List.cons.inj hcons
    exact ⟨d, rest, rfl, hc⟩

theorem Named.stripAlias_stripKeywords_eq {front tail named : List Char} {last : Char}
    (h : Named (front ++ [last] ++ tail) named) (hbegins : Begins (front ++ [last]))
    (htail : IsBlankRun tail) : ∃ kept, named = kept ++ [last] ++ tail ∧
      squeeze (stripAlias (stripKeywords (trimStart (kept ++ [last])))) =
        squeeze (front ++ [last] ++ tail) := by
  cases h with
  | plain hequals hkeyword =>
    refine ⟨front, rfl, ?_⟩
    have hnone := stripAnyKeyword?_eq_none hkeyword htail
    have hkept : '=' ∉ front ++ [last] := fun hc => hequals (List.mem_append_left _ hc)
    rw [hbegins.trimStart_eq, stripKeywords_of_none hnone, stripAlias_of_not_mem hkept,
      squeeze_append _ tail, squeeze_eq_nil htail, List.append_nil]
  | @renamed short before after hequals _ hbefore hafter =>
    refine ⟨short ++ before ++ '=' :: (after ++ front), by simp, ?_⟩
    have hfront : '=' ∉ short ++ before := by
      intro hc
      rcases List.mem_append.mp hc with hc | hc
      · exact hequals hc
      · exact absurd (hbefore _ hc) (by decide)
    rw [List.append_assoc _ _ [last], List.cons_append, trimStart_append_equals,
      stripAlias_stripKeywords _ _ (not_mem_trimStart hfront), List.append_assoc after,
      squeeze_append after, squeeze_append _ tail, squeeze_eq_nil hafter, squeeze_eq_nil htail,
      List.nil_append, List.append_nil]

theorem Imports.begins {target text : List Char} (h : Imports target text) : Begins target := by
  obtain ⟨-, -, -, -, hbegins, -⟩ := h
  exact hbegins

theorem Imports.usingTarget_eq {target text : List Char} (h : Imports target text) :
    usingTarget text = squeeze target := by
  cases h with
  | @intro space modifiers named ending hspace hmodifiers hnamed hending hbegins hends =>
    obtain ⟨front, last, tail, rfl, hlast, htail, hbegins⟩ := hbegins.exists_last
    have hsqueeze : squeeze (front ++ [last] ++ tail) = squeeze front ++ [last] := by
      rw [squeeze_append, squeeze_append, squeeze_eq_nil htail, List.append_nil]
      simp [squeeze, hlast]
    have hsemicolon : last ≠ ';' := by
      rintro rfl
      rw [hsqueeze] at hends
      exact hends (by simp)
    obtain ⟨kept, rfl, hkept⟩ := hnamed.stripAlias_stripKeywords_eq hbegins htail
    have hregroup : space ++ modifiers ++ (kept ++ [last] ++ tail) ++ ending =
        space ++ (modifiers ++ kept ++ [last] ++ tail ++ ending) := by simp
    have hwhole : Begins (modifiers ++ kept ++ [last]) := (hmodifiers.begins.append _).append _
    rw [usingTarget, hregroup, hending.trim_eq hspace hwhole hlast hsemicolon htail,
      List.append_assoc modifiers, hmodifiers.stripKeywords_append, hkept]

theorem Imports.usingTarget?_eq {target text : List Char} (h : Imports target text) :
    usingTarget? (String.ofList text) = some (String.ofList (squeeze target)) := by
  rw [usingTarget?, String.toList_ofList, h.usingTarget_eq]
  split
  case h_1 hnil => exact absurd hnil h.begins.squeeze_ne_nil
  case h_2 => rfl

end Targets

/-- The target of a directive is told, without its white space, from every way to write it.
Modifiers, an alias and white space make no difference, and a name that begins with a keyword is kept
whole. -/
theorem usingTarget?_written :
    (∀ target text, Imports target text →
        usingTarget? (String.ofList text) = some (String.ofList (squeeze target))) ∧
      (∀ target target' text text', Imports target text → Imports target' text' →
        squeeze target = squeeze target' →
          usingTarget? (String.ofList text) = usingTarget? (String.ofList text')) ∧
      ∀ keyword ∈ usingKeywords, ∀ rest, Begins rest → '=' ∉ rest →
        (squeeze rest).getLast? ≠ some ';' → ∀ space modifiers ending, IsBlankRun space →
          Modifiers modifiers → Ending ending →
            usingTarget? (String.ofList (space ++ modifiers ++ (keyword ++ rest) ++ ending)) =
              some (String.ofList (keyword ++ squeeze rest)) := by
  refine ⟨fun _ _ h => h.usingTarget?_eq, ?_, ?_⟩
  case refine_1 =>
    intro target target' text text' h h' heq
    rw [h.usingTarget?_eq, h'.usingTarget?_eq, heq]
  case refine_2 =>
    intro keyword hkeyword rest hrest hequals hends space modifiers ending hspace hmodifiers hending
    have hplain : '=' ∉ keyword ++ rest := by
      intro hc
      exact (List.mem_append.mp hc).elim (not_mem_of_mem_usingKeywords hkeyword) hequals
    have hsqueeze : squeeze (keyword ++ rest) = keyword ++ squeeze rest := by
      rw [squeeze_append, squeeze_of_mem_usingKeywords hkeyword]
    have hlast : (squeeze (keyword ++ rest)).getLast? ≠ some ';' := by
      rw [hsqueeze, List.getLast?_append, Option.or_of_isSome]
      · exact hends
      · simpa using hrest.squeeze_ne_nil
    have himports : Imports (keyword ++ rest) (space ++ modifiers ++ (keyword ++ rest) ++ ending) :=
      .intro hspace hmodifiers (.plain hplain (hrest.of_keyword hkeyword)) hending
        ((begins_of_mem_usingKeywords hkeyword).append rest) hlast
    rw [himports.usingTarget?_eq, hsqueeze]

theorem usingTarget?_written_behind_alias :
    usingTarget? "global using Json = A . B ;" = some "A.B" ∧
      usingTarget? "global using Json = A . B ;" = usingTarget? "using A.B" ∧
      usingTarget? "using staticHelpers;" = some "staticHelpers" := by
  have hempty := IsBlankRun.nil
  have hblank : IsBlankRun [' '] := .singleton rfl
  have husing : Modifiers ("using".toList ++ [' ']) := .last (by simp [usingKeywords]) rfl hempty
  have hglobal : Modifiers ("global".toList ++ ' ' :: ([] ++ ("using".toList ++ [' ']))) :=
    .more (by simp [usingKeywords]) rfl hempty husing
  have hjson := Imports.intro hempty hglobal
    (@Named.renamed "A . B".toList "Json".toList [' '] [' '] (by simp)
      (by simp [IsBlankRun, isBlank]) hblank hblank)
    (.semicolon hblank hempty) ⟨'A', _, rfl, rfl⟩ (by simp [squeeze, isBlank])
  have hplain := Imports.intro hempty husing
    (@Named.plain "A.B".toList (by simp) (by simp [usingKeywords])) (.space hempty)
    ⟨'A', _, rfl, rfl⟩ (by simp [squeeze, isBlank])
  have hstatic := usingTarget?_written.2.2 "static".toList (by simp [usingKeywords])
    "Helpers".toList ⟨'H', _, rfl, rfl⟩ (by simp) (by simp [squeeze, isBlank]) [] _ _ hempty husing
    (.semicolon hempty hempty)
  have hsame := usingTarget?_written.2.1 _ _ _ _ hjson hplain (by simp [squeeze, isBlank])
  exact ⟨usingTarget?_written.1 _ _ hjson, hsame, hstatic⟩

end CodeAtlas.CSharp
