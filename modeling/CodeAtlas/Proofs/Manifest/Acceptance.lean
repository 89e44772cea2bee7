import CodeAtlas.Proofs.Manifest.Scan
import CodeAtlas.Proofs.Markup.Reading

/-!
# Which manifests count

A manifest is accepted just if it is complete: it is read to its end, it has one root, all elements are
closed, and nothing that the scanner looks up or decodes is at fault. What is not accepted contributes
nothing, wherever its fault stands.
-/

namespace CodeAtlas.Manifest

open Markup Keyed

/-- What makes a reading a document that counts. -/
structure Complete (reading : Reading) : Prop where
  unbroken : reading.fault = none
  one_root : (rootElements reading.events).length = 1
  closed : openElements reading.events = []
  attributes : ∀ tag, .openTag tag ∈ reading.events ∨ .emptyTag tag ∈ reading.events →
    isReference tag.localName → (∃ name, attributeText? tag "Include" = .ok name) ∧
      ∃ version, attributeText? tag "Version" = .ok version
  texts : ∀ raw ∈ versionTexts [] reading.events, ∃ text, decodeReferences raw = .ok text

/-- What the document before an event requires of that event. -/
structure Fits (before : List Event) (e : Event) : Prop where
  one_root : e.begins → openElements before = [] → rootElements before = []
  attributes : ∀ tag, e = .openTag tag ∨ e = .emptyTag tag → isReference tag.localName →
    (∃ name, attributeText? tag "Include" = .ok name) ∧
      ∃ version, attributeText? tag "Version" = .ok version
  texts : ∀ raw, e = .text raw → versionBegun before → ∃ text, decodeReferences raw = .ok text

theorem exists_ofTag_iff (tag : Tag) : (∃ pending, PendingReference.ofTag tag = .ok pending) ↔
    (∃ name, attributeText? tag "Include" = .ok name) ∧
      ∃ version, attributeText? tag "Version" = .ok version := by
  simp only [ofTag_eq_ok_iff]
  constructor
  · rintro ⟨-, name, version, hname, hversion, -⟩
    exact ⟨⟨name, hname⟩, version, hversion⟩
  · rintro ⟨⟨name, hname⟩, version, hversion⟩
    exact ⟨_, name, version, hname, hversion, rfl⟩

theorem Scanned.takes_iff {events : List Event} {s : ScanState} (h : Scanned events s) (e : Event) :
    s.Takes e ↔ Fits events e := by
  have hadmits : s.Admits ↔ (openElements events = [] → rootElements events = []) := by
    rw [ScanState.Admits, h.depth_eq_zero_iff, h.roots, List.length_eq_zero_iff]
  constructor
  · intro htakes
    constructor
    case one_root => exact fun hbegins => hadmits.mp (htakes.admits hbegins)
    case attributes => exact fun tag he hnamed => (exists_ofTag_iff tag).mp (htakes.reads tag he hnamed)
    case texts => exact fun raw he hbegun => htakes.decodes raw he (h.inVersion ▸ hbegun)
  · intro hfits
    constructor
    case admits => exact fun hbegins => hadmits.mpr (hfits.one_root hbegins)
    case reads => exact fun tag he hnamed => (exists_ofTag_iff tag).mpr (hfits.attributes tag he hnamed)
    case decodes => exact fun raw he hbegun => hfits.texts raw he (h.inVersion ▸ hbegun)

theorem Scanned.exists_run_iff {before events : List Event} {s : ScanState} (h : Scanned before s)
    (hnested : WellNested (before ++ events)) : (∃ s', s.run events = .ok s') ↔
      ∀ inner e after, events = inner ++ e :: after → Fits (before ++ inner) e := by
  induction events generalizing before s with
  | nil =>
    constructor
    · intro _ inner e after hsplit
      simp at hsplit
    · intro _
      exact ⟨s, rfl⟩
  | cons e events ih =>
    have hmove : before ++ e :: events = (before ++ [e]) ++ events := by simp
    rw [hmove] at hnested
    constructor
    · rintro ⟨s', hrun⟩ inner e' after hsplit
      obtain ⟨t, hstep, hrest⟩ := (run_cons_eq_ok_iff _ _ _ _).mp hrun
      cases inner with
      | nil =>
        obtain ⟨rfl, -⟩ := List.cons.inj hsplit
        rw [List.append_nil]
        exact (h.takes_iff e).mp (takes_of_step_eq hstep.step_eq)
      | cons e'' inner =>
        obtain ⟨rfl, hrest'⟩ := List.cons.inj hsplit
        have hnext := h.step hnested.of_append hstep
        have hfits := (ih hnext hnested).mp ⟨s', hrest⟩ inner e' after hrest'
        simpa using hfits
    · intro hfits
      have htakes := (h.takes_iff e).mpr (by simpa using hfits [] e events rfl)
      obtain ⟨t, hstep⟩ := htakes.exists_step
      have hnext := h.step hnested.of_append hstep
      obtain ⟨s', hrest⟩ := (ih hnext hnested).mpr fun inner e' after hsplit => by
        simpa using hfits (e :: inner) e' after (by simp [hsplit])
      exact ⟨s', (run_cons_eq_ok_iff _ _ _ _).mpr ⟨t, hstep, hrest⟩⟩

theorem rootElements_eq_nil {before after : List Event} {e : Event} (hbegins : e.begins)
    (hopen : openElements before = []) (hone : (rootElements (before ++ e :: after)).length = 1) :
    rootElements before = [] := by
  have hnext : (rootElements (before ++ [e])).length = (rootElements before).length + 1 := by
    simp [length_rootElements_concat, hbegins, hopen]
  have hle := length_rootElements_le (before ++ [e]) after
  rw [List.append_assoc, List.singleton_append, hone] at hle
  apply List.eq_nil_of_length_eq_zero
  omega

theorem Complete.fits {reading : Reading} (h : Complete reading) {before after : List Event}
    {e : Event} (hsplit : reading.events = before ++ e :: after) : Fits before e := by
  have hmem : e ∈ reading.events := by simp [hsplit]
  constructor
  case one_root =>
    intro hbegins hopen
    have hone := h.one_root
    rw [hsplit] at hone
    exact rootElements_eq_nil hbegins hopen hone
  case attributes =>
    rintro tag (rfl | rfl) hnamed
    · exact h.attributes tag (Or.inl hmem) hnamed
    · exact h.attributes tag (Or.inr hmem) hnamed
  case texts =>
    rintro raw rfl hbegun
    exact h.texts raw ((mem_versionTexts_iff [] reading.events raw).mpr ⟨before, after, hsplit, hbegun⟩)

theorem finish_eq_ok_iff (s : ScanState) (packages : List Package) :
    s.finish = .ok packages ↔ s.depth = 0 ∧ s.roots ≠ 0 ∧ packages = s.packages := by
  rw [ScanState.finish]
  by_cases hdepth : 0 < s.depth
  · simp [hdepth, Nat.pos_iff_ne_zero.mp hdepth]
  · by_cases hroots : s.roots = 0
    · simp [hdepth, hroots]
    · simp [hroots, Nat.eq_zero_of_not_pos hdepth, eq_comm]

theorem scanReading_eq_ok_iff (reading : Reading) (packages : List Package) :
    scanReading reading = .ok packages ↔
      ∃ s, ScanState.initial.run reading.events = .ok s ∧ reading.fault = none ∧ s.depth = 0 ∧
        s.roots ≠ 0 ∧ packages = s.packages := by
  rw [scanReading, bind_eq_ok_iff]
  refine exists_congr fun s => and_congr_right fun _ => ?_
  cases reading.fault with
  | none => simp [finish_eq_ok_iff]
  | some fault => simp

theorem accepted_iff_complete {reading : Reading} (hnested : WellNested reading.events) :
    (∃ packages, scanReading reading = .ok packages) ↔ Complete reading := by
  have hempty : WellNested ([] ++ reading.events) := hnested
  have hruns := Scanned.initial.exists_run_iff hempty
  simp only [scanReading_eq_ok_iff, List.nil_append] at hruns ⊢
  constructor
  · rintro ⟨packages, s, hrun, hfault, hdepth, hroots, -⟩
    have hscanned := Scanned.of_run hnested hrun
    have hfits := hruns.mp ⟨s, hrun⟩
    have hlength := hscanned.roots
    have hle := hscanned.roots_le
    constructor
    case unbroken => exact hfault
    case one_root => omega
    case closed => exact hscanned.depth_eq_zero_iff.mp hdepth
    case attributes =>
      rintro tag (hmem | hmem) hnamed
      · obtain ⟨before, after, hsplit⟩ := List.append_of_mem hmem
        exact (hfits before _ after hsplit).attributes tag (Or.inl rfl) hnamed
      · obtain ⟨before, after, hsplit⟩ := List.append_of_mem hmem
        exact (hfits before _ after hsplit).attributes tag (Or.inr rfl) hnamed
    case texts =>
      intro raw hraw
      obtain ⟨before, after, hsplit, hbegun⟩ := (mem_versionTexts_iff _ _ _).mp hraw
      exact (hfits before _ after hsplit).texts raw rfl hbegun
  · intro hcomplete
    obtain ⟨s, hrun⟩ := hruns.mpr fun before e after hsplit => hcomplete.fits hsplit
    have hscanned := Scanned.of_run hnested hrun
    have hlength := hscanned.roots
    have hone := hcomplete.one_root
    exact ⟨s.packages, s, hrun, hcomplete.unbroken, hscanned.depth_eq_zero_iff.mpr hcomplete.closed,
      by omega, rfl⟩

structure Judged (reading : Reading) : Prop where
  accepted_iff : (∃ packages, scanReading reading = .ok packages) ↔ Complete reading
  depth_eq : ∀ before after s, reading.events = before ++ after →
    ScanState.initial.run before = .ok s → s.depth = (openElements before).length
  depth_pos : ∀ before name after s, reading.events = before ++ .closeTag name :: after →
    ScanState.initial.run before = .ok s → 0 < s.depth

/-- The packages of some manifests are those of the complete ones, in order. -/
inductive Contribute : List String → List Package → Prop where
  | nil : Contribute [] []
  | accepted {text : String} {texts : List String} {found packages : List Package}
      (complete : Complete (read text)) (scanned : scanManifest text = .ok found)
      (rest : Contribute texts packages) : Contribute (text :: texts) (found ++ packages)
  | refused {text : String} {texts : List String} {packages : List Package}
      (incomplete : ¬ Complete (read text)) (rest : Contribute texts packages) :
      Contribute (text :: texts) packages

theorem judged_of_wellNested {reading : Reading} (hnested : WellNested reading.events) :
    Judged reading := by
  have hscanned {before after : List Event} {s : ScanState}
      (hsplit : reading.events = before ++ after) (hrun : ScanState.initial.run before = .ok s) :
      Scanned before s := by
    rw [hsplit] at hnested
    exact Scanned.of_run hnested.of_append hrun
  constructor
  case accepted_iff => exact accepted_iff_complete hnested
  case depth_eq => exact fun before after s hsplit hrun => (hscanned hsplit hrun).depth
  case depth_pos =>
    intro before name after s hsplit hrun
    obtain ⟨tag, outer, hopen, -⟩ := hnested before name after hsplit
    rw [(hscanned hsplit hrun).depth, hopen]
    simp

theorem contribute_scan (texts : List String) : Contribute texts (scan texts) := by
  induction texts with
  | nil => exact Contribute.nil
  | cons text texts ih =>
    have hjudged := accepted_iff_complete (wellNested_read text)
    rw [scan, List.flatMap_cons, ← scan]
    cases hscan : scanManifest text with
    | ok found => exact Contribute.accepted (hjudged.mp ⟨found, hscan⟩) hscan ih
    | error fault =>
      refine Contribute.refused ?_ ih
      intro hcomplete
      obtain ⟨packages, hok⟩ := hjudged.mpr hcomplete
      have hne : scanManifest text = .ok packages := hok
      rw [hscan] at hne
      cases hne

theorem complete_manifests_contribute {reading : Reading} (hnested : WellNested reading.events) :
    Judged reading ∧ ∀ texts, Contribute texts (scan texts) :=
  ⟨judged_of_wellNested hnested, contribute_scan⟩

theorem truncated_manifest_judged :
    WellNested (read "<a><PackageReference Include=\"x\"/>").events ∧
      Judged (read "<a><PackageReference Include=\"x\"/>") ∧
        ∀ texts, Contribute texts (scan texts) :=
  ⟨wellNested_read _, complete_manifests_contribute (wellNested_read _)⟩

end CodeAtlas.Manifest
