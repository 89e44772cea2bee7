import CodeAtlas.Manifest
import CodeAtlas.Proofs.Keyed.Repeats
import CodeAtlas.Proofs.Markup.Nesting

/-!
# References of a document

What the events of a document say about packages, without the scanner. A reference is an empty element,
or a pair of tags with no other such pair between them. Which texts may be a version is told by the tags
that stand before them.
-/

namespace CodeAtlas.Manifest

open Markup Keyed

def starts (named : List Char → Bool) : Event → Bool
  | .openTag tag => named tag.localName
  | _ => false

def ends (named : List Char → Bool) : Event → Bool
  | .closeTag name => named (localPart name)
  | _ => false

/-- Whether the last start or end tag of a reference is a start tag. -/
def referenceBegun (events : List Event) : Bool :=
  (events.filter fun e => starts isReference e || ends isReference e).getLast?.any
    (starts isReference)

/-- A start tag of a version counts only where a reference has begun, an end tag counts anywhere. -/
def countsForVersion (before : List Event) (e : Event) : Bool :=
  ends isVersion e || starts isVersion e && referenceBegun before

def versionBegun (events : List Event) : Bool :=
  (chosen countsForVersion events).getLast?.any (starts isVersion)

def rawText? : Event → Option (List Char)
  | .text raw => some raw
  | _ => none

/-- The texts among some events, behind others, that may be a version. -/
def versionTexts (before events : List Event) : List (List Char) :=
  (chosen (fun inner e => (rawText? e).isSome && versionBegun (before ++ inner)) events).filterMap
    rawText?

def LastVersion (before events : List Event) (version : Option String) : Prop :=
  Option.Rel (fun raw version => (decodeReferences raw).map String.ofList = .ok version)
    (versionTexts before events).getLast? version

/-- A tag of a reference, with its name and the version among its attributes. -/
structure Names (tag : Tag) (name : String) (version : Option String) : Prop where
  isReference : isReference tag.localName
  name_eq : attributeText? tag "Include" = .ok (some name)
  version_eq : attributeText? tag "Version" = .ok version

structure Records (name version : String) (package : Package) : Prop where
  named : ¬ Text.isBlankText name
  name_eq : package.name = name
  version_eq : package.version = version
  known : ∀ known ∈ knownPackages, Text.sameIgnoringAsciiCase known.name name →
    package.risk = known.risk ∧ package.license = some known.license
  unknown : (∀ known ∈ knownPackages, ¬ Text.sameIgnoringAsciiCase known.name name) →
    package.risk = "Unknown" ∧ package.license = none

/-- No pair of tags of a reference stands among the events. -/
def Alone (events : List Event) : Prop :=
  ∀ before tag body after, events = before ++ .openTag tag :: (body ++ .closeTag tag.name :: after) →
    Balanced body → ¬ isReference tag.localName

/-- An event completes a reference behind the events before it: it is an empty element, or the end of
a pair of tags with no such pair between them. -/
inductive Completes : List Event → Event → Package → Prop where
  | empty {before : List Event} {tag : Tag} {name : String} {version : Option String}
      {package : Package} (names : Names tag name version)
      (records : Records name (version.getD "") package) :
      Completes before (.emptyTag tag) package
  | pair {outside body : List Event} {tag : Tag} {name : String} {version element : Option String}
      {package : Package} (names : Names tag name version) (balanced : Balanced body)
      (alone : Alone body) (last : LastVersion (outside ++ [.openTag tag]) body element)
      (records : Records name ((version.or element).getD "") package) :
      Completes (outside ++ .openTag tag :: body) (.closeTag tag.name) package

def CompletesAt (events : List Event) (position : Nat) (package : Package) : Prop :=
  ∃ e, events[position]? = some e ∧ Completes (events.take position) e package

/-- There is a record for each reference, in the order of the positions where they are complete. -/
def Lists (events : List Event) (packages : List Package) : Prop :=
  ∃ positions : List Nat, positions.Pairwise (· < ·) ∧
    List.Forall₂ (CompletesAt events) positions packages ∧
    ∀ position package, CompletesAt events position package → position ∈ positions

section Tags

theorem ends_of_starts {named : List Char → Bool} {e : Event} (h : starts named e) :
    ends named e = false := by
  cases e <;> simp_all [starts, ends]

theorem not_named_of_starts {named : List Char → Bool} {tag : Tag}
    (h : starts named (.openTag tag) = false) : ¬ named tag.localName := by
  simpa [starts] using h

theorem not_named_of_ends {named : List Char → Bool} {tag : Tag}
    (h : ends named (.closeTag tag.name) = false) : ¬ named tag.localName := by
  simpa [ends, Tag.localName] using h

theorem exists_openTag_of_starts {named : List Char → Bool} {e : Event} (h : starts named e) :
    ∃ tag, e = .openTag tag ∧ named tag.localName := by
  cases e with
  | openTag tag => exact ⟨tag, rfl, h⟩
  | _ => simp [starts] at h

theorem isVersion_of_isReference {name : List Char} (h : isReference name) :
    isVersion name = false := by
  have hname : name = "PackageReference".toList := by simpa [isReference] using h
  rw [hname]
  decide

theorem isReference_of_isVersion {name : List Char} (h : isVersion name) :
    isReference name = false := by
  rw [Bool.eq_false_iff]
  intro hreference
  rw [isVersion_of_isReference hreference] at h
  cases h

theorem referenceBegun_concat (events : List Event) (e : Event) :
    referenceBegun (events ++ [e]) =
      (starts isReference e || !ends isReference e && referenceBegun events) := by
  rw [referenceBegun, referenceBegun, List.filter_append]
  cases hs : starts isReference e
  · cases he : ends isReference e <;> simp [hs, he]
  · simp [hs]

theorem versionBegun_concat (events : List Event) (e : Event) :
    versionBegun (events ++ [e]) =
      (!ends isVersion e && (starts isVersion e && referenceBegun events || versionBegun events)) := by
  rw [versionBegun, versionBegun, chosen_concat, countsForVersion]
  cases hs : starts isVersion e
  · cases ends isVersion e <;> simp [hs]
  · have he := ends_of_starts hs
    cases referenceBegun events <;> simp [hs, he]

theorem versionTexts_nil (before : List Event) : versionTexts before [] = [] := rfl

theorem versionTexts_concat (before events : List Event) (e : Event) :
    versionTexts before (events ++ [e]) = versionTexts before events ++
      if versionBegun (before ++ events) then (rawText? e).toList else [] := by
  rw [versionTexts, chosen_concat, List.filterMap_append, ← versionTexts]
  cases hraw : rawText? e <;> cases hv : versionBegun (before ++ events) <;> simp [hraw]

theorem mem_versionTexts_iff (before events : List Event) (raw : List Char) :
    raw ∈ versionTexts before events ↔
      ∃ inner after, events = inner ++ .text raw :: after ∧ versionBegun (before ++ inner) := by
  rw [versionTexts, List.mem_filterMap]
  constructor
  · rintro ⟨e, he, hraw⟩
    obtain ⟨inner, after, rfl, hchosen⟩ := (mem_chosen_iff _ _ _).mp he
    cases e with
    | text raw' =>
      obtain rfl : raw' = raw := by simpa [rawText?] using hraw
      exact ⟨inner, after, rfl, by simpa [rawText?] using hchosen⟩
    | _ => simp [rawText?] at hraw
  · rintro ⟨inner, after, rfl, hbegun⟩
    have hchosen : Event.text raw ∈ chosen (fun inner e => (rawText? e).isSome &&
        versionBegun (before ++ inner)) (inner ++ .text raw :: after) :=
      (mem_chosen_iff _ _ _).mpr ⟨inner, after, rfl, by simp [rawText?, hbegun]⟩
    exact ⟨.text raw, hchosen, rfl⟩

theorem referenceBegun_iff (events : List Event) :
    referenceBegun events ↔ ∃ before tag body, events = before ++ .openTag tag :: body ∧
      isReference tag.localName ∧
      ∀ e ∈ body, starts isReference e = false ∧ ends isReference e = false := by
  induction events using List.reverseRecOn with
  | nil => simp [referenceBegun]
  | append_singleton events e ih =>
    rw [referenceBegun_concat]
    constructor
    · intro h
      rcases Bool.or_eq_true _ _ ▸ h with hs | hrest
      · obtain ⟨tag, rfl, htag⟩ := exists_openTag_of_starts hs
        exact ⟨events, tag, [], rfl, htag, by simp⟩
      · by_cases hs : starts isReference e
        · obtain ⟨tag, rfl, htag⟩ := exists_openTag_of_starts hs
          exact ⟨events, tag, [], rfl, htag, by simp⟩
        · rw [Bool.and_eq_true, Bool.not_eq_true'] at hrest
          obtain ⟨before, tag, body, rfl, htag, hbody⟩ := ih.mp hrest.2
          refine ⟨before, tag, body ++ [e], by simp, htag, ?_⟩
          intro e' he'
          rcases List.mem_append.mp he' with hin | hlast
          · exact hbody e' hin
          · rw [List.mem_singleton.mp hlast]
            exact ⟨by simpa using hs, hrest.1⟩
    · rintro ⟨before, tag, body, hsplit, htag, hbody⟩
      rcases List.eq_nil_or_concat' body with rfl | ⟨body, e', rfl⟩
      · obtain ⟨-, he⟩ := List.append_inj' hsplit rfl
        cases he
        simp [starts, htag]
      · have hsplit' : events ++ [e] = (before ++ .openTag tag :: body) ++ [e'] := by simpa using hsplit
        obtain ⟨rfl, he⟩ := List.append_inj' hsplit' rfl
        cases he
        have hlast := hbody e (by simp)
        have hevents := ih.mpr ⟨before, tag, body, rfl, htag, fun e' he' => hbody e' (by simp [he'])⟩
        simp [hlast.1, hlast.2, hevents]

theorem exists_of_versionBegun {events : List Event} (h : versionBegun events) :
    ∃ before tag body, events = before ++ .openTag tag :: body ∧ isVersion tag.localName ∧
      referenceBegun before ∧ ∀ e ∈ body, ends isVersion e = false := by
  induction events using List.reverseRecOn with
  | nil => simp [versionBegun, chosen] at h
  | append_singleton events e ih =>
    rw [versionBegun_concat, Bool.and_eq_true, Bool.not_eq_true'] at h
    obtain ⟨hends, hbegun⟩ := h
    by_cases hs : starts isVersion e && referenceBegun events
    · rw [Bool.and_eq_true] at hs
      obtain ⟨tag, rfl, htag⟩ := exists_openTag_of_starts hs.1
      exact ⟨events, tag, [], rfl, htag, hs.2, by simp⟩
    · have hold : versionBegun events := by simpa [hs] using hbegun
      obtain ⟨before, tag, body, rfl, htag, hbefore, hbody⟩ := ih hold
      refine ⟨before, tag, body ++ [e], by simp, htag, hbefore, ?_⟩
      intro e' he'
      rcases List.mem_append.mp he' with hin | hlast
      · exact hbody e' hin
      · rwa [List.mem_singleton.mp hlast]

end Tags

section Nesting

def Outside (events : List Event) : Prop :=
  ∀ tag ∈ openElements events, ¬ isReference tag.localName

theorem referenceBegun_of_outside {events : List Event} (h : WellNested events)
    (hout : Outside events) : referenceBegun events = false := by
  rw [Bool.eq_false_iff]
  intro hbegun
  obtain ⟨before, tag, body, rfl, htag, hbody⟩ := (referenceBegun_iff events).mp hbegun
  have hstop : ∀ name, .closeTag name ∈ body → name ≠ tag.name := by
    rintro name hname rfl
    exact not_named_of_ends (hbody _ hname).2 htag
  obtain ⟨inner, hopen⟩ := h.exists_inner hstop
  exact hout tag (by simp [hopen]) htag

theorem versionBegun_of_outside {events : List Event} (h : WellNested events)
    (hout : Outside events) : versionBegun events = false := by
  rw [Bool.eq_false_iff]
  intro hbegun
  obtain ⟨before, tag, body, rfl, htag, hbefore, hbody⟩ := exists_of_versionBegun hbegun
  have hstop : ∀ name, .closeTag name ∈ body → name ≠ tag.name := by
    rintro name hname rfl
    exact not_named_of_ends (hbody _ hname) htag
  obtain ⟨inner, hopen⟩ := h.exists_inner hstop
  -- The reference that the version stands in is open as long as the version is.
  have houtside : Outside before := by
    intro outer houter
    exact hout outer (by simp [hopen, houter])
  rw [referenceBegun_of_outside h.of_append houtside] at hbefore
  cases hbefore

theorem alone_iff {body : List Event} (h : Balanced body) :
    Alone body ↔ ∀ e ∈ body, starts isReference e = false ∧ ends isReference e = false := by
  constructor
  · intro halone e he
    obtain ⟨before, after, hsplit⟩ := List.append_of_mem he
    constructor
    · rw [Bool.eq_false_iff]
      intro hs
      obtain ⟨tag, rfl, htag⟩ := exists_openTag_of_starts hs
      obtain ⟨within, rest, rfl, hwithin⟩ := h.exists_stop hsplit
      exact halone before tag within rest hsplit hwithin htag
    · rw [Bool.eq_false_iff]
      intro hends
      cases e with
      | closeTag name =>
        obtain ⟨tag, earlier, within, rfl, rfl, hwithin⟩ := h.exists_start hsplit
        exact halone earlier tag within after (by simp [hsplit]) hwithin hends
      | _ => simp [ends] at hends
  · intro hnone before tag within after hsplit _
    exact not_named_of_starts (hnone (.openTag tag) (by simp [hsplit])).1

theorem last_start_unique {before before' body body' : List Event} {tag tag' : Tag}
    (hsplit : before ++ .openTag tag :: body = before' ++ .openTag tag' :: body')
    (htag : isReference tag.localName) (htag' : isReference tag'.localName)
    (hbody : ∀ e ∈ body, starts isReference e = false)
    (hbody' : ∀ e ∈ body', starts isReference e = false) :
    before = before' ∧ tag = tag' ∧ body = body' := by
  rcases append_cons_cases hsplit with ⟨hbefore, heq, hrest⟩ | ⟨mid, -, rfl⟩ | ⟨mid, -, rfl⟩
  · cases heq
    exact ⟨hbefore, rfl, hrest⟩
  · exact absurd htag (not_named_of_starts (hbody' _ (by simp)))
  · exact absurd htag' (not_named_of_starts (hbody _ (by simp)))

end Nesting

section Records

theorem annotate_name (package : Package) : (annotate package).name = package.name := by
  rw [annotate]
  split <;> rfl

theorem annotate_version (package : Package) : (annotate package).version = package.version := by
  rw [annotate]
  split <;> rfl

/-- No two known packages have names that are the same but for the case of letters. -/
theorem nodup_knownPackages :
    (knownPackages.map fun known => known.name.toList.map Char.toLower).Nodup := by
  decide

theorem records_annotate {name : String} (hname : ¬ Text.isBlankText name) (version : String) :
    Records name version (annotate (.plain name version)) where
  named := hname
  name_eq := annotate_name _
  version_eq := annotate_version _
  known := by
    intro known hknown hsame
    rw [annotate]
    cases hfind : knownPackages.find? fun k => Text.sameIgnoringAsciiCase k.name name with
    | none =>
      have hno := List.find?_eq_none.mp hfind known hknown
      exact absurd hsame hno
    | some found =>
      have hfound := List.find?_some hfind
      have heq : found = known := by
        simp only [Text.sameIgnoringAsciiCase, beq_iff_eq] at hfound hsame
        exact List.inj_on_of_nodup_map nodup_knownPackages (List.mem_of_find?_eq_some hfind) hknown
          (hfound.trans hsame.symm)
      subst heq
      simp [Package.plain, hfind]
  unknown := by
    intro hnone
    have hfind : (knownPackages.find? fun k => Text.sameIgnoringAsciiCase k.name name) = none := by
      rw [List.find?_eq_none]
      exact hnone
    simp [annotate, Package.plain, Package.unknownRisk, hfind]

end Records

section Positions

theorem CompletesAt.lt_length {events : List Event} {position : Nat} {package : Package}
    (h : CompletesAt events position package) : position < events.length := by
  obtain ⟨e, he, -⟩ := h
  exact (List.getElem?_eq_some_iff.mp he).1

theorem completesAt_concat_of_lt {events : List Event} {position : Nat}
    (h : position < events.length) (e : Event) (package : Package) :
    CompletesAt (events ++ [e]) position package ↔ CompletesAt events position package := by
  rw [CompletesAt, CompletesAt, List.getElem?_append_left h,
    List.take_append_of_le_length (Nat.le_of_lt h)]

theorem completesAt_concat_length (events : List Event) (e : Event) (package : Package) :
    CompletesAt (events ++ [e]) events.length package ↔ Completes events e package := by
  simp [CompletesAt]

theorem completesAt_concat_cases {events : List Event} {e : Event} {position : Nat}
    {package : Package} (h : CompletesAt (events ++ [e]) position package) :
    CompletesAt events position package ∨ position = events.length ∧ Completes events e package := by
  have hlt := h.lt_length
  rw [List.length_append, List.length_singleton] at hlt
  by_cases hend : position = events.length
  · subst hend
    exact Or.inr ⟨rfl, (completesAt_concat_length events e package).mp h⟩
  · exact Or.inl ((completesAt_concat_of_lt (by omega) e package).mp h)

namespace Lists

variable {events : List Event} {packages : List Package} {e : Event}

theorem nil : Lists [] [] := by
  refine ⟨[], List.Pairwise.nil, List.Forall₂.nil, ?_⟩
  intro position package h
  have hlt := h.lt_length
  simp at hlt

theorem forall₂_concat {positions : List Nat} (h : List.Forall₂ (CompletesAt events) positions packages)
    (e : Event) : List.Forall₂ (CompletesAt (events ++ [e])) positions packages := by
  apply h.imp
  intro position package hat
  exact (completesAt_concat_of_lt hat.lt_length e package).mpr hat

theorem lt_length {positions : List Nat} (h : List.Forall₂ (CompletesAt events) positions packages) :
    ∀ position ∈ positions, position < events.length := by
  induction h with
  | nil => simp
  | cons hat _ ih =>
    intro position hposition
    rcases List.mem_cons.mp hposition with rfl | hrest
    · exact hat.lt_length
    · exact ih position hrest

theorem concat_of_completes (h : Lists events packages) {package : Package}
    (he : Completes events e package) : Lists (events ++ [e]) (packages ++ [package]) := by
  obtain ⟨positions, hsorted, hat, hall⟩ := h
  refine ⟨positions ++ [events.length], ?_, ?_, ?_⟩
  · rw [List.pairwise_append]
    refine ⟨hsorted, List.pairwise_singleton _ _, ?_⟩
    intro position hposition last hlast
    rw [List.mem_singleton.mp hlast]
    exact lt_length hat position hposition
  · have hlast := (completesAt_concat_length events e package).mpr he
    exact List.rel_append (forall₂_concat hat e) (List.Forall₂.cons hlast List.Forall₂.nil)
  · intro position package' hposition
    rcases completesAt_concat_cases hposition with hold | ⟨rfl, -⟩
    · exact List.mem_append_left _ (hall position package' hold)
    · simp

theorem concat_of_not (h : Lists events packages) (he : ∀ package, ¬ Completes events e package) :
    Lists (events ++ [e]) packages := by
  obtain ⟨positions, hsorted, hat, hall⟩ := h
  refine ⟨positions, hsorted, forall₂_concat hat e, ?_⟩
  intro position package hposition
  rcases completesAt_concat_cases hposition with hold | ⟨-, hnew⟩
  · exact hall position package hold
  · exact absurd hnew (he package)

end Lists

end Positions

end CodeAtlas.Manifest
