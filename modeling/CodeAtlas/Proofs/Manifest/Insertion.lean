import CodeAtlas.Proofs.Manifest.Listing
import CodeAtlas.Proofs.Manifest.Spelling

/-!
# Inserting a reference

In an accepted manifest, a reference may be inserted wherever an element has its content, outside of all
references. It adds its record at that place, and the records around it stay as they were.
-/

namespace CodeAtlas.Manifest

open Markup

section Frame

theorem exists_frame_of_same {s t : ScanState} {e : Event} (hsame : t.packages = s.packages)
    (h : ∀ packages, Step { s with packages := packages } e { t with packages := packages }) :
    ∃ more, t.packages = s.packages ++ more ∧ ∀ packages,
      Step { s with packages := packages } e { t with packages := packages ++ more } := by
  refine ⟨[], by rw [hsame, List.append_nil], fun packages => ?_⟩
  rw [List.append_nil]
  exact h packages

/-- A step adds to the packages found before it, and does not read them. -/
theorem Step.frame {s t : ScanState} {e : Event} (h : Step s e t) :
    ∃ more, t.packages = s.packages ++ more ∧ ∀ packages,
      Step { s with packages := packages } e { t with packages := packages ++ more } := by
  cases h with
  | reference admits named read =>
    exact exists_frame_of_same rfl fun packages => Step.reference admits named read
  | element admits named =>
    exact exists_frame_of_same rfl fun packages => Step.element admits named
  | emptyReference admits named read =>
    exact ⟨_, rfl, fun packages => Step.emptyReference admits named read⟩
  | emptyElement admits named =>
    exact exists_frame_of_same rfl fun packages => Step.emptyElement admits named
  | version begun read =>
    exact exists_frame_of_same rfl fun packages => Step.version begun read
  | text silent => exact exists_frame_of_same rfl fun packages => Step.text silent
  | stop name => exact ⟨_, rfl, fun packages => Step.stop name⟩
  | aside => exact exists_frame_of_same rfl fun packages => Step.aside

theorem run_frame {s t : ScanState} {events : List Event} (h : s.run events = .ok t) :
    ∃ more, t.packages = s.packages ++ more ∧ ∀ packages,
      ScanState.run { s with packages := packages } events =
        .ok { t with packages := packages ++ more } := by
  induction events generalizing s with
  | nil =>
    cases h
    exact ⟨[], by simp, fun packages => by rw [List.append_nil]; rfl⟩
  | cons e events ih =>
    obtain ⟨u, hstep, hrest⟩ := (run_cons_eq_ok_iff _ _ _ _).mp h
    obtain ⟨first, hfirst, hmove⟩ := hstep.frame
    obtain ⟨more, hmore, hrun⟩ := ih hrest
    refine ⟨first ++ more, by rw [hmore, hfirst, List.append_assoc], fun packages => ?_⟩
    rw [run_cons_eq_ok_iff, ← List.append_assoc]
    exact ⟨_, hmove packages, hrun (packages ++ first)⟩

end Frame

section Places

/-- A place behind some text of a document, directly in the content of an element and outside of all
references, with what is found before it. -/
structure Place (before : String) (found : List Event) : Prop where
  reads : ∃ seen, Reads (.content []) (withoutMark before.toList) (.content seen) found
  inside : openElements found ≠ []
  outside : Outside found

theorem Place.ne_nil {before : String} {found : List Event} (h : Place before found) :
    before.toList ≠ [] := by
  intro hnil
  obtain ⟨seen, hreads⟩ := h.reads
  rw [hnil] at hreads
  cases hreads
  exact h.inside rfl

theorem run_textEvents {s : ScanState} (h : s.inVersion = false) (text : List Char) :
    s.run (textEvents text) = .ok s := by
  rw [textEvents]
  split
  · rfl
  · exact (run_cons_eq_ok_iff _ _ _ _).mpr ⟨s, Step.text h, rfl⟩

theorem run_insert {found later : List Event} {seen raw : List Char} {s : ScanState}
    (hnested : WellNested (found ++ (textEvents (raw ++ seen) ++ later)))
    (hinside : openElements found ≠ []) (hout : Outside found)
    (hrun : ScanState.initial.run (found ++ (textEvents (raw ++ seen) ++ later)) = .ok s) :
    ∃ earlier more, s.packages = earlier ++ more ∧ Lists found earlier ∧
      ∀ text inserted package, Contributes text inserted package →
        WellNested (found ++ ((textEvents seen ++ inserted) ++ (textEvents raw ++ later))) ∧
          ScanState.initial.run
            (found ++ ((textEvents seen ++ inserted) ++ (textEvents raw ++ later))) =
              .ok { s with packages := earlier ++ package :: more } := by
  obtain ⟨s₁, hfound, hrest⟩ := (run_append_eq_ok_iff _ _ _ _).mp hrun
  obtain ⟨s₂, htext, hlater⟩ := (run_append_eq_ok_iff _ _ _ _).mp hrest
  have hscanned := Scanned.of_run hnested.of_append hfound
  obtain ⟨hversion, hcurrent⟩ := hscanned.current_of_outside hnested.of_append hout
  have hdepth : 0 < s₁.depth := by
    rw [hscanned.depth]
    exact List.length_pos_iff.mpr hinside
  rw [run_textEvents hversion] at htext
  cases htext
  obtain ⟨more, hmore, hframe⟩ := run_frame hlater
  refine ⟨s₁.packages, more, hmore, hscanned.lists, ?_⟩
  intro text inserted package hcontributes
  constructor
  · have hbalanced : Balanced ((textEvents seen ++ inserted) ++ textEvents raw) :=
      ((Balanced.textEvents seen).append hcontributes.balanced).append (Balanced.textEvents raw)
    have hnew := hnested.exchange_balanced (Balanced.textEvents _) hbalanced
    simpa using hnew
  · have hinserted := hcontributes.run_eq s₁ hdepth hversion hcurrent
    have hafter := hframe (s₁.packages ++ [package])
    rw [List.append_assoc, List.singleton_append] at hafter
    have hbefore := run_append hfound (run_append (run_textEvents hversion seen) hinserted)
    rw [← List.append_assoc]
    refine run_append hbefore (run_append ?_ hafter)
    apply run_textEvents
    exact hversion

end Places

section Attributes

/-- A version among the attributes of a reference is that of its record, whatever version stands between
its tags. -/
def AttributesWin (events : List Event) (packages : List Package) : Prop :=
  ∀ before tag body after name version,
    events = before ++ .openTag tag :: (body ++ .closeTag tag.name :: after) → Balanced body →
    Alone body → Names tag name (some version) → ¬ Text.isBlankText name →
      ∃ earlier later, packages = earlier ++ annotate (.plain name version) :: later ∧
        Lists (before ++ .openTag tag :: body) earlier

theorem Scanned.current_of_alone {before body : List Event} {tag : Tag} {s : ScanState}
    (h : Scanned (before ++ .openTag tag :: body) s) {name : String} {version : Option String}
    (hnames : Names tag name version) (hbody : Balanced body) (halone : Alone body) :
    ∃ element, s.current = some ⟨name, version, element⟩ := by
  have hbegun := begins_of_alone before hnames.isReference hbody halone
  have hcurrent := h.current
  cases hpending : s.current with
  | none =>
    rw [hpending, Current, hbegun] at hcurrent
    cases hcurrent
  | some pending =>
    rw [hpending] at hcurrent
    obtain ⟨before', tag', body', hlast⟩ := hcurrent
    have hsilent := (alone_iff hbody).mp halone
    obtain ⟨-, rfl, -⟩ := last_start_unique hlast.split hnames.isReference hlast.named
      (fun e he => (hsilent e he).1) fun e he => (hlast.silent e he).1
    obtain ⟨hname, hversion⟩ := hnames.eq_of_ofTag hlast.read
    exact ⟨pending.versionElement, by rw [← hname, ← hversion]⟩

theorem attributesWin_of_run {events : List Event} {s : ScanState} (hnested : WellNested events)
    (hrun : ScanState.initial.run events = .ok s) : AttributesWin events s.packages := by
  intro before tag body after name version hsplit hbody halone hnames hname
  have hmove : events = (before ++ .openTag tag :: body) ++ .closeTag tag.name :: after := by
    simp [hsplit]
  rw [hmove] at hnested hrun
  obtain ⟨s₁, hbefore, hrest⟩ := (run_append_eq_ok_iff _ _ _ _).mp hrun
  obtain ⟨s₂, hstop, hafter⟩ := (run_cons_eq_ok_iff _ _ _ _).mp hrest
  have hscanned := Scanned.of_run hnested.of_append hbefore
  obtain ⟨element, hcurrent⟩ := hscanned.current_of_alone hnames hbody halone
  obtain ⟨later, hlater, -⟩ := run_frame hafter
  refine ⟨s₁.packages, later, ?_, hscanned.lists⟩
  have hreference : isReference (localPart tag.name) = true := hnames.isReference
  have hpackage : (PendingReference.mk name (some version) element).package? =
      some (annotate (.plain name version)) := package?_eq hname rfl
  cases hstop
  rw [hlater]
  simp [hreference, hcurrent, hpackage]

end Attributes

theorem read_of_scanManifest {text : String} {packages : List Package}
    (h : scanManifest text = .ok packages) :
    ∃ events s, read text = ⟨events, none⟩ ∧ ScanState.initial.run events = .ok s ∧ s.depth = 0 ∧
      s.roots ≠ 0 ∧ packages = s.packages := by
  obtain ⟨s, hrun, hfault, hend⟩ := (scanReading_eq_ok_iff _ _).mp h
  refine ⟨(read text).events, s, ?_, hrun, hend⟩
  rw [← hfault]

theorem scanManifest_of_read {text : String} {events : List Event} {s : ScanState}
    (hread : read text = ⟨events, none⟩) (hrun : ScanState.initial.run events = .ok s)
    (hdepth : s.depth = 0) (hroots : s.roots ≠ 0) : scanManifest text = .ok s.packages := by
  rw [scanManifest, hread, scanReading_eq_ok_iff]
  exact ⟨s, hrun, rfl, hdepth, hroots, rfl⟩

/-- A reference that is written between two parts of a manifest adds its record at that place, in
whichever way it is written. -/
def Inserts (before after : String) (found : List Event) (packages : List Package) : Prop :=
  ∃ earlier later, packages = earlier ++ later ∧ Lists found earlier ∧
    ∀ name version written, ¬ Text.isBlankText name → Trimmed version.toList →
      Spells name version written → scanManifest (before ++ written ++ after) =
        .ok (earlier ++ annotate (.plain name version) :: later)

theorem inserts_of_place {before after : String} {found : List Event} {packages : List Package}
    (haccepted : scanManifest (before ++ after) = .ok packages) (hplace : Place before found) :
    Inserts before after found packages := by
  obtain ⟨events, s, hread, hrun, hdepth, hroots, rfl⟩ := read_of_scanManifest haccepted
  obtain ⟨hall, hnested⟩ := (read_eq_iff _ _).mp hread
  obtain ⟨seen, hbefore⟩ := hplace.reads
  rw [String.toList_append, withoutMark_append hplace.ne_nil] at hall
  obtain ⟨rest, hrest, rfl⟩ := hall.of_append hbefore
  obtain ⟨raw, last, -, rfl, hothers⟩ := hrest.of_content
  obtain ⟨earlier, later, hpackages, hlists, hinsert⟩ :=
    run_insert hnested hplace.inside hplace.outside hrun
  refine ⟨earlier, later, hpackages, hlists, ?_⟩
  intro name version written hname hversion hspells
  obtain ⟨inserted, hcontributes⟩ := hspells.contributes hname hversion
  obtain ⟨hnested', hrun'⟩ := hinsert _ _ _ hcontributes
  have hreads := ReadsAll.append hbefore (ReadsAll.append (hcontributes.reads seen) (hothers []))
  have hread' : read (before ++ written ++ after) =
      ⟨found ++ ((textEvents seen ++ inserted) ++ (textEvents raw ++ last)), none⟩ := by
    rw [read_eq_iff]
    refine ⟨?_, hnested'⟩
    rw [String.append_assoc, String.toList_append, withoutMark_append hplace.ne_nil,
      String.toList_append]
    simpa using hreads
  exact scanManifest_of_read hread' hrun' hdepth hroots

theorem versions_agree {before after : String} {packages : List Package}
    (haccepted : scanManifest (before ++ after) = .ok packages) :
    (∀ found, Place before found → Inserts before after found packages) ∧
      AttributesWin (read (before ++ after)).events packages := by
  refine ⟨fun found hplace => inserts_of_place haccepted hplace, ?_⟩
  obtain ⟨events, s, hread, hrun, -, -, rfl⟩ := read_of_scanManifest haccepted
  rw [hread]
  exact attributesWin_of_run ((read_eq_iff _ _).mp hread).2 hrun

theorem versions_agree_behind_root :
    scanManifest ("<a>" ++ "<PackageReference Include=\"x\" Version=\"1\"/></a>") =
        .ok [⟨"x", "1", "Unknown", none⟩] ∧
      Place "<a>" [.openTag ⟨['a']⟩] ∧
        (∀ found, Place "<a>" found → Inserts "<a>"
          "<PackageReference Include=\"x\" Version=\"1\"/></a>" found
          [⟨"x", "1", "Unknown", none⟩]) ∧
        AttributesWin
          (read ("<a>" ++ "<PackageReference Include=\"x\" Version=\"1\"/></a>")).events
          [⟨"x", "1", "Unknown", none⟩] := by
  have hplace : Place "<a>" [.openTag ⟨['a']⟩] := by
    constructor
    case reads =>
      have hword : IsWord "a".toList := isWord_of_all (by decide) (by decide)
      exact ⟨[], Reads.openTag (inBrackets_writtenTag hword (List.forall_mem_nil _)) []⟩
    case inside => decide
    case outside =>
      intro tag htag
      rw [List.mem_singleton.mp htag]
      decide
  have haccepted : scanManifest ("<a>" ++ "<PackageReference Include=\"x\" Version=\"1\"/></a>") =
      .ok [⟨"x", "1", "Unknown", none⟩] := eq_ok_of_toOption (by decide +kernel)
  exact ⟨haccepted, hplace, versions_agree haccepted⟩

end CodeAtlas.Manifest
