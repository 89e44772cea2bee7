import CodeAtlas.Proofs.Manifest.Insertion
import CodeAtlas.Proofs.Markup.Divided

/-!
# Comments in a manifest

A comment may stand wherever an element has its content, and an accepted manifest stays accepted. It
lists the same packages, unless the comment divides the text of a version: then the part of the text
before the comment is as good as left out.
-/

namespace CodeAtlas.Manifest

open Markup

section Versions

def ScanState.withVersion (s : ScanState) (text : String) : ScanState :=
  { s with current := s.current.map fun pending => { pending with versionElement := some text } }

@[simp] theorem ScanState.withVersion_withVersion (s : ScanState) (first last : String) :
    (s.withVersion first).withVersion last = s.withVersion last := by
  simp [ScanState.withVersion, Function.comp_def]

/-- Two states that differ in their packages and in what is known of the pending reference. -/
structure Abreast (s t : ScanState) : Prop where
  depth : s.depth = t.depth
  roots : s.roots = t.roots
  inVersion : s.inVersion = t.inVersion
  current : s.current.isSome = t.current.isSome

theorem Abreast.withVersion (s : ScanState) (text : String) : Abreast (s.withVersion text) s where
  depth := rfl
  roots := rfl
  inVersion := rfl
  current := by simp [ScanState.withVersion]

theorem Abreast.refl (s : ScanState) : Abreast s s := ⟨rfl, rfl, rfl, rfl⟩

theorem Abreast.symm {s t : ScanState} (h : Abreast s t) : Abreast t s :=
  ⟨h.depth.symm, h.roots.symm, h.inVersion.symm, h.current.symm⟩

theorem Abreast.trans {s t u : ScanState} (h : Abreast s t) (h' : Abreast t u) : Abreast s u :=
  ⟨h.depth.trans h'.depth, h.roots.trans h'.roots, h.inVersion.trans h'.inVersion,
    h.current.trans h'.current⟩

theorem Abreast.takes {s t : ScanState} (h : Abreast s t) {e : Event} (htakes : s.Takes e) :
    t.Takes e where
  admits := by
    intro hbegins hdepth
    rw [← h.roots]
    exact htakes.admits hbegins (h.depth.trans hdepth)
  reads := htakes.reads
  decodes := fun raw he hbegun => htakes.decodes raw he (h.inVersion.trans hbegun)

theorem Abreast.step {s t s' : ScanState} (h : Abreast s t) {e : Event} (hstep : Step s e s') :
    ∃ t', Step t e t' ∧ Abreast s' t' := by
  obtain ⟨t', hstep'⟩ := (h.takes (takes_of_step_eq hstep.step_eq)).exists_step
  refine ⟨t', hstep', ?_⟩
  obtain ⟨hdepth, hroots, hversion, hcurrent⟩ := h
  have hbegun : s.begun.roots = t.begun.roots := by
    rw [ScanState.begun, ScanState.begun, hdepth, hroots]
  cases hstep with
  | reference _ named =>
    cases hstep' with
    | reference => exact ⟨congrArg (· + 1) hdepth, hbegun, hversion, rfl⟩
    | element _ unnamed => simp [named] at unnamed
  | element _ unnamed =>
    cases hstep' with
    | reference _ named => simp [named] at unnamed
    | element => exact ⟨congrArg (· + 1) hdepth, hbegun, by simp [hversion, hcurrent], hcurrent⟩
  | emptyReference _ named =>
    cases hstep' with
    | emptyReference => exact ⟨hdepth, hbegun, hversion, hcurrent⟩
    | emptyElement _ unnamed => simp [named] at unnamed
  | emptyElement _ unnamed =>
    cases hstep' with
    | emptyReference _ named => simp [named] at unnamed
    | emptyElement => exact ⟨hdepth, hbegun, hversion, hcurrent⟩
  | version begun =>
    cases hstep' with
    | version => exact ⟨hdepth, hroots, hversion, by simpa using hcurrent⟩
    | text silent => simp [← hversion, begun] at silent
  | text silent =>
    cases hstep' with
    | version begun => simp [← hversion, silent] at begun
    | text => exact ⟨hdepth, hroots, hversion, hcurrent⟩
  | stop name =>
    cases hstep'
    refine ⟨congrArg (· - 1) hdepth, hroots, by simp [hversion], ?_⟩
    by_cases hname : isReference (localPart name)
    · simp [hname]
    · simpa [hname] using hcurrent
  | aside =>
    cases hstep'
    exact ⟨hdepth, hroots, hversion, hcurrent⟩

theorem Abreast.run {s t s' : ScanState} (h : Abreast s t) {events : List Event}
    (hrun : s.run events = .ok s') : ∃ t', t.run events = .ok t' ∧ Abreast s' t' := by
  induction events generalizing s t with
  | nil =>
    cases hrun
    exact ⟨t, rfl, h⟩
  | cons e events ih =>
    obtain ⟨u, hstep, hrest⟩ := (run_cons_eq_ok_iff _ _ _ _).mp hrun
    obtain ⟨u', hstep', hnext⟩ := h.step hstep
    obtain ⟨t', hrest', hlast⟩ := ih hnext hrest
    exact ⟨t', (run_cons_eq_ok_iff _ _ _ _).mpr ⟨u', hstep', hrest'⟩, hlast⟩

theorem run_singleton_of_step {s t : ScanState} {e : Event} (h : Step s e t) : s.run [e] = .ok t :=
  (run_cons_eq_ok_iff _ _ _ _).mpr ⟨t, h, rfl⟩

theorem exists_run_text {cs : List Char} (hresolves : Resolves cs) (hcs : ¬ ∀ c ∈ cs, isSpace c) :
    ∃ text, ∀ s : ScanState, s.inVersion →
      s.run (textEvents cs.reverse) = .ok (s.withVersion text) := by
  have htrimmed := (Resolves.trimSpaces_iff cs).mpr hresolves
  obtain ⟨text, htext⟩ := (exists_decodeReferences_iff _).mpr htrimmed
  refine ⟨String.ofList text, fun s hbegun => ?_⟩
  rw [textEvents_reverse_of_not_blank hcs]
  exact run_singleton_of_step (Step.version hbegun htext)

theorem resolves_of_run_text {s t : ScanState} (hbegun : s.inVersion) {cs : List Char}
    (h : s.run (textEvents cs.reverse) = .ok t) : Resolves cs ∧ Abreast t s := by
  by_cases hblank : ∀ c ∈ cs, isSpace c
  · rw [textEvents_reverse_of_blank hblank] at h
    cases h
    exact ⟨Resolves.of_blank hblank, Abreast.refl s⟩
  · rw [textEvents_reverse_of_not_blank hblank] at h
    obtain ⟨u, hstep, hnil⟩ := (run_cons_eq_ok_iff _ _ _ _).mp h
    cases hnil
    cases hstep with
    | @version _ text _ hread =>
      have hresolves := (exists_decodeReferences_iff _).mp ⟨text, hread⟩
      exact ⟨(Resolves.trimSpaces_iff cs).mp hresolves, Abreast.withVersion s _⟩
    | text silent => simp [silent] at hbegun

end Versions

section Places

/-- A place in the content of an element, with what is found before it and the text that stands
between the last mark-up and the place. -/
structure InContent (before : String) (found : List Event) (left : List Char) : Prop where
  reads : Reads (.content []) (withoutMark before.toList) (.content left.reverse) found
  inside : openElements found ≠ []

/-- A version has begun, and its text goes on, with more than white space, on both sides of a place. -/
structure DividesVersion (found : List Event) (left right : List Char) : Prop where
  begun : versionBegun found
  left : ¬ ∀ c ∈ left, isSpace c
  right : ¬ ∀ c ∈ right, isSpace c

/-- Unless a version is divided, the parts of a text do what the whole text does. -/
theorem run_parts {found : List Event} {left right : List Char} {s t : ScanState}
    (hversion : s.inVersion = versionBegun found) (hdivides : ¬ DividesVersion found left right)
    (h : s.run (textEvents (left ++ right).reverse) = .ok t) :
    s.run (textEvents left.reverse ++ .aside :: textEvents right.reverse) = .ok t := by
  have haside {xs ys : List Event} (h : s.run (xs ++ ys) = .ok t) :
      s.run (xs ++ .aside :: ys) = .ok t := by
    obtain ⟨u, hxs, hys⟩ := (run_append_eq_ok_iff _ _ _ _).mp h
    exact run_append hxs ((run_cons_eq_ok_iff _ _ _ _).mpr ⟨u, Step.aside, hys⟩)
  apply haside
  by_cases hbegun : versionBegun found
  · by_cases hleft : ∀ c ∈ left, isSpace c
    · rw [textEvents_append_of_blank_left hleft] at h
      rwa [textEvents_reverse_of_blank hleft]
    · have hright : ∀ c ∈ right, isSpace c := by
        by_contra hright
        exact hdivides ⟨hbegun, hleft, hright⟩
      rw [textEvents_append_of_blank_right hright] at h
      rwa [textEvents_reverse_of_blank hright, List.append_nil]
  · have hsilent : s.inVersion = false := by simpa [hversion] using hbegun
    rw [run_textEvents hsilent] at h
    cases h
    exact run_append (run_textEvents hsilent _) (run_textEvents hsilent _)

/-- A comment in the text of a version makes the scanner forget the text before it. -/
theorem exists_run_divided {found : List Event} {left right : List Char} {s t : ScanState}
    (hversion : s.inVersion = versionBegun found) (hdivides : DividesVersion found left right)
    (hwhole : ¬ DividesReference left right)
    (h : s.run (textEvents (left ++ right).reverse) = .ok t) :
    ∃ u, s.run (textEvents left.reverse ++ .aside :: textEvents right.reverse) = .ok u ∧
      s.run (textEvents right.reverse) = .ok u ∧ Abreast t u := by
  have hbegun : s.inVersion := hversion.trans hdivides.begun
  obtain ⟨hresolves, habreast⟩ := resolves_of_run_text hbegun h
  obtain ⟨hleft, hright⟩ := hresolves.of_append hwhole
  obtain ⟨first, hfirst⟩ := exists_run_text hleft hdivides.left
  obtain ⟨last, hlast⟩ := exists_run_text hright hdivides.right
  -- The second text is kept in place of the first one.
  have hagain := hlast (s.withVersion first) hbegun
  rw [ScanState.withVersion_withVersion] at hagain
  refine ⟨s.withVersion last, run_append (hfirst s hbegun) ?_, hlast s hbegun, ?_⟩
  · exact (run_cons_eq_ok_iff _ _ _ _).mpr ⟨_, Step.aside, hagain⟩
  · exact habreast.trans (Abreast.withVersion s last).symm

theorem exists_run_comment {found later : List Event} {left right : List Char} {s : ScanState}
    (hnested : WellNested found) (hwhole : ¬ DividesReference left right)
    (hrun : ScanState.initial.run (found ++ (textEvents (left ++ right).reverse ++ later)) = .ok s) :
    ∃ s', ScanState.initial.run
        (found ++ ((textEvents left.reverse ++ .aside :: textEvents right.reverse) ++ later)) =
          .ok s' ∧
      Abreast s s' ∧ (¬ DividesVersion found left right → s' = s) ∧
        (DividesVersion found left right → ScanState.initial.run
          (found ++ (textEvents right.reverse ++ later)) = .ok s') := by
  obtain ⟨s₁, hfound, hrest⟩ := (run_append_eq_ok_iff _ _ _ _).mp hrun
  obtain ⟨s₂, htext, hlater⟩ := (run_append_eq_ok_iff _ _ _ _).mp hrest
  have hversion := (Scanned.of_run hnested hfound).inVersion
  by_cases hdivides : DividesVersion found left right
  · obtain ⟨u, hparts, hright, habreast⟩ := exists_run_divided hversion hdivides hwhole htext
    obtain ⟨s', hlater', hlast⟩ := habreast.run hlater
    refine ⟨s', run_append hfound (run_append hparts hlater'), hlast, ?_, ?_⟩
    · intro hnot
      exact absurd hdivides hnot
    · intro _
      exact run_append hfound (run_append hright hlater')
  · have hparts := run_parts hversion hdivides htext
    refine ⟨s, run_append hfound (run_append hparts hlater), Abreast.refl s, fun _ => rfl, ?_⟩
    intro hdivided
    exact absurd hdivided hdivides

namespace InContent

variable {before : String} {found : List Event} {left : List Char}

theorem ne_nil (h : InContent before found left) : withoutMark before.toList ≠ [] := by
  intro hnil
  have hreads := h.reads
  rw [hnil] at hreads
  generalize ReadState.content left.reverse = last at hreads
  cases hreads
  exact h.inside rfl

theorem withoutMark_append (h : InContent before found left) (after : String) :
    withoutMark (before ++ after).toList = withoutMark before.toList ++ after.toList := by
  rw [String.toList_append, Markup.withoutMark_append]
  intro hnil
  apply h.ne_nil
  rw [hnil]
  rfl

theorem exists_head (h : InContent before found left) :
    ∃ head : String, before = head ++ String.ofList left ∧ InContent head found [] := by
  obtain ⟨inner, hinner, hreads⟩ := h.reads.exists_head
  rw [List.reverse_reverse] at hinner
  have hne : inner ≠ [] := by
    rintro rfl
    cases hreads
    exact h.inside rfl
  obtain ⟨head, hhead, rfl⟩ := exists_withoutMark_eq hinner hne
  refine ⟨String.ofList head, ?_, ?_, h.inside⟩
  · rw [← String.ofList_append, ← hhead, String.ofList_toList]
  · simpa using hreads

theorem read_append (h : InContent before found left) {after : String} {later : List Event}
    (hafter : ReadsAll (.content left.reverse) after.toList later)
    (hnested : WellNested (found ++ later)) : read (before ++ after) = ⟨found ++ later, none⟩ := by
  rw [read_eq_iff, h.withoutMark_append]
  exact ⟨ReadsAll.append h.reads hafter, hnested⟩

theorem exists_later (h : InContent before found left) {after : String} {events : List Event}
    (hread : read (before ++ after) = ⟨events, none⟩) : ∃ later,
      events = found ++ (textEvents (left ++ leadingText after.toList).reverse ++ later) ∧
        ReadsAll (.content []) after.toList
          (textEvents (leadingText after.toList).reverse ++ later) := by
  obtain ⟨hall, -⟩ := (read_eq_iff _ _).mp hread
  rw [h.withoutMark_append] at hall
  obtain ⟨rest, hrest, rfl⟩ := hall.of_append h.reads
  obtain ⟨raw, later, rfl, rfl, hothers⟩ := hrest.of_content
  refine ⟨later, by rw [List.reverse_append], ?_⟩
  simpa using hothers []

end InContent

end Places

section Tags

def versionTags : List Event :=
  [.openTag ⟨['a']⟩, .openTag ⟨writtenTag "PackageReference" [("Include", "x")]⟩,
    .openTag ⟨writtenTag "Version" []⟩]

theorem inContent_version :
    InContent "<a><PackageReference Include=\"x\"><Version>1." versionTags ['1', '.'] := by
  constructor
  case reads =>
    have hword : IsWord "a".toList := isWord_of_all (by decide) (by decide)
    have hkeys : ∀ a ∈ [("Include", "x")], IsWord a.1.toList := by simpa using isWord_include
    have hroot := Reads.openTag (inBrackets_writtenTag hword (List.forall_mem_nil _)) []
    have hreference := Reads.openTag (inBrackets_writtenTag isWord_reference hkeys) []
    have hversion := Reads.openTag (inBrackets_writtenTag isWord_version (List.forall_mem_nil _)) []
    have htext := Reads.content (by decide : '<' ∉ ['1', '.']) []
    have hall := ((hroot.append hreference).append hversion).append htext
    simpa [versionTags, writtenTag, writtenAttribute, escape, escapeChar, entityName?, withoutMark]
      using hall
  case inside => simp [versionTags, openElements, nest]

theorem not_dividesReference_version :
    ¬ DividesReference ['1', '.'] (leadingText "0</Version></PackageReference></a>".toList) := by
  rintro ⟨before, name, name', after, hleft, -, -⟩
  have hmem : '&' ∈ ['1', '.'] := by simp [hleft]
  exact absurd hmem (by decide)

theorem scan_version : scanManifest ("<a><PackageReference Include=\"x\"><Version>1." ++
    "0</Version></PackageReference></a>") = .ok [⟨"x", "1.0", "Unknown", none⟩] :=
  eq_ok_of_toOption (by decide +kernel)

end Tags

/-- A comment in the content of an element leaves a manifest accepted. The packages are the same,
unless a version is divided: then they are those without the text before the comment. -/
theorem scanManifest_comment {before after comment : String} {found : List Event}
    {left : List Char} {packages : List Package}
    (haccepted : scanManifest (before ++ after) = .ok packages)
    (hplace : InContent before found left)
    (hwhole : ¬ DividesReference left (leadingText after.toList))
    (hcomment : '-' ∉ comment.toList) :
    ∃ packages', scanManifest (before ++ ("<!--" ++ comment ++ "-->") ++ after) = .ok packages' ∧
      (¬ DividesVersion found left (leadingText after.toList) → packages' = packages) ∧
        (DividesVersion found left (leadingText after.toList) → ∃ head,
          before = head ++ String.ofList left ∧ scanManifest (head ++ after) = .ok packages') := by
  obtain ⟨events, s, hread, hrun, hdepth, hroots, rfl⟩ := read_of_scanManifest haccepted
  have hnested := ((read_eq_iff _ _).mp hread).2
  obtain ⟨later, rfl, hafter⟩ := hplace.exists_later hread
  obtain ⟨s', hcommented, habreast, hsame, hdivided⟩ :=
    exists_run_comment hnested.of_append hwhole hrun
  have hdepth' : s'.depth = 0 := habreast.depth ▸ hdepth
  have hroots' : s'.roots ≠ 0 := habreast.roots ▸ hroots
  refine ⟨s'.packages, ?_, fun hnot => by rw [hsame hnot], ?_⟩
  · have hwritten : ("<!--" ++ comment ++ "-->").toList = writtenComment comment.toList := by
      simp [writtenComment]
    have hbehind : ReadsAll (.content left.reverse) (("<!--" ++ comment ++ "-->") ++ after).toList
        ((textEvents left.reverse ++ [.aside]) ++
          (textEvents (leadingText after.toList).reverse ++ later)) := by
      rw [String.toList_append, hwritten]
      exact ReadsAll.append (Reads.comment hcomment _) hafter
    have hparts : Balanced ((textEvents left.reverse ++ [.aside]) ++
        textEvents (leadingText after.toList).reverse) :=
      ((Balanced.textEvents _).append (Balanced.nil.flat rfl)).append (Balanced.textEvents _)
    have hnested' := hnested.exchange_balanced (Balanced.textEvents _) hparts
    rw [List.append_assoc] at hnested'
    rw [String.append_assoc]
    apply scanManifest_of_read (hplace.read_append hbehind hnested') _ hdepth' hroots'
    simpa using hcommented
  · intro hdivides
    obtain ⟨head, rfl, hhead⟩ := hplace.exists_head
    refine ⟨head, rfl, ?_⟩
    have hnested' := hnested.exchange_balanced (Balanced.textEvents _)
      (Balanced.textEvents (leadingText after.toList).reverse)
    have hread' := hhead.read_append hafter hnested'
    exact scanManifest_of_read hread' (hdivided hdivides) hdepth' hroots'

theorem scanManifest_comment_between_numbers :
    ∃ packages, scanManifest ("<a><PackageReference Include=\"x\"><Version>1." ++
        ("<!--" ++ "c" ++ "-->") ++ "0</Version></PackageReference></a>") = .ok packages ∧
      (¬ DividesVersion versionTags ['1', '.']
          (leadingText "0</Version></PackageReference></a>".toList) →
        packages = [⟨"x", "1.0", "Unknown", none⟩]) ∧
      (DividesVersion versionTags ['1', '.']
          (leadingText "0</Version></PackageReference></a>".toList) → ∃ head,
        "<a><PackageReference Include=\"x\"><Version>1." = head ++ String.ofList ['1', '.'] ∧
          scanManifest (head ++ "0</Version></PackageReference></a>") = .ok packages) :=
  scanManifest_comment scan_version inContent_version not_dividesReference_version (by decide)

/-- A comment in the text of a version is not passed over: the part before it is lost. -/
theorem version_cut_by_comment :
    InContent "<a><PackageReference Include=\"x\"><Version>1." versionTags ['1', '.'] ∧
      ¬ DividesReference ['1', '.'] (leadingText "0</Version></PackageReference></a>".toList) ∧
      scanManifest ("<a><PackageReference Include=\"x\"><Version>1." ++
          "0</Version></PackageReference></a>") = .ok [⟨"x", "1.0", "Unknown", none⟩] ∧
      scanManifest ("<a><PackageReference Include=\"x\"><Version>1." ++ ("<!--" ++ "c" ++ "-->") ++
          "0</Version></PackageReference></a>") = .ok [⟨"x", "0", "Unknown", none⟩] :=
  ⟨inContent_version, not_dividesReference_version, scan_version,
    eq_ok_of_toOption (by decide +kernel)⟩

end CodeAtlas.Manifest
