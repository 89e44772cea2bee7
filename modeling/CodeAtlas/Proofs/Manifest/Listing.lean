import CodeAtlas.Proofs.Manifest.Acceptance

/-!
# What an accepted manifest lists

The packages of a manifest that is accepted are the records of its references. A `Version` element
outside of all references is one like any other: it could as well have another name.
-/

namespace CodeAtlas.Manifest

open Markup Keyed

section Outside

theorem Scanned.current_of_outside {events : List Event} {s : ScanState} (h : Scanned events s)
    (hnested : WellNested events) (hout : Outside events) :
    s.inVersion = false ∧ s.current = none := by
  constructor
  · rw [h.inVersion]
    exact versionBegun_of_outside hnested hout
  · have hsome := h.current.isSome_eq
    rw [referenceBegun_of_outside hnested hout] at hsome
    simpa using hsome

theorem Step.rename_start {s t : ScanState} {tag tag' : Tag} (hstep : Step s (.openTag tag) t)
    (hversion : s.inVersion = false) (hcurrent : s.current = none)
    (htag : isReference tag.localName = false) (htag' : isReference tag'.localName = false) :
    Step s (.openTag tag') t := by
  have hflag (name : List Char) : (isVersion name && s.current.isSome || s.inVersion) = false := by
    simp [hversion, hcurrent]
  cases hstep with
  | reference _ named => simp [htag] at named
  | element hadmits =>
    have hother : Step s (.openTag tag') _ := Step.element hadmits htag'
    rw [hflag] at hother ⊢
    exact hother

theorem Step.rename_stop {s t : ScanState} {name name' : List Char}
    (hstep : Step s (.closeTag name) t) (hversion : s.inVersion = false)
    (hname : isReference (localPart name) = false)
    (hname' : isReference (localPart name') = false) : Step s (.closeTag name') t := by
  cases hstep
  have hother := Step.stop (s := s) name'
  simp only [hversion, hname, hname', Bool.and_false] at hother ⊢
  exact hother

/-- An element outside of all references, itself none, may have any other name but theirs. -/
theorem run_rename {before body after : List Event} {tag tag' : Tag} {s : ScanState}
    (hnested : WellNested (before ++ .openTag tag :: (body ++ .closeTag tag.name :: after)))
    (hbody : Balanced body) (hout : Outside before) (htag : isReference tag.localName = false)
    (htag' : isReference tag'.localName = false)
    (hrun : ScanState.initial.run (before ++ .openTag tag :: (body ++ .closeTag tag.name :: after)) =
      .ok s) :
    ScanState.initial.run (before ++ .openTag tag' :: (body ++ .closeTag tag'.name :: after)) =
      .ok s := by
  obtain ⟨s₁, hbefore, hrest⟩ := (run_append_eq_ok_iff _ _ _ _).mp hrun
  obtain ⟨s₂, hstart, hrest⟩ := (run_cons_eq_ok_iff _ _ _ _).mp hrest
  obtain ⟨s₃, hinside, hrest⟩ := (run_append_eq_ok_iff _ _ _ _).mp hrest
  obtain ⟨s₄, hstop, hafter⟩ := (run_cons_eq_ok_iff _ _ _ _).mp hrest
  have hnested₁ : WellNested before := hnested.of_append
  have hnested₃ : WellNested ((before ++ [.openTag tag]) ++ body) := by
    have hsplit : before ++ .openTag tag :: (body ++ .closeTag tag.name :: after) =
        ((before ++ [.openTag tag]) ++ body) ++ .closeTag tag.name :: after := by simp
    rw [hsplit] at hnested
    exact hnested.of_append
  have hscanned₁ : Scanned before s₁ := Scanned.of_run hnested₁ hbefore
  have hscanned₂ := hscanned₁.step hnested₃.of_append hstart
  have hscanned₃ := hscanned₂.run hnested₃ hinside
  have hout₃ : Outside ((before ++ [.openTag tag]) ++ body) := by
    intro outer houter
    rw [hbody.openElements_append, openElements_append] at houter
    rcases List.mem_cons.mp houter with rfl | hold
    · simp [htag]
    · exact hout outer hold
  obtain ⟨hversion₁, hcurrent₁⟩ := hscanned₁.current_of_outside hnested₁ hout
  obtain ⟨hversion₃, -⟩ := hscanned₃.current_of_outside hnested₃ hout₃
  apply (run_append_eq_ok_iff _ _ _ _).mpr
  refine ⟨s₁, hbefore, (run_cons_eq_ok_iff _ _ _ _).mpr ⟨s₂, ?_, ?_⟩⟩
  · exact hstart.rename_start hversion₁ hcurrent₁ htag htag'
  · apply (run_append_eq_ok_iff _ _ _ _).mpr
    refine ⟨s₃, hinside, (run_cons_eq_ok_iff _ _ _ _).mpr ⟨s₄, ?_, hafter⟩⟩
    exact hstop.rename_stop hversion₃ htag htag'

end Outside

/-- What the packages of a manifest have to do with its events. -/
structure Describes (events : List Event) (packages : List Package) : Prop where
  lists : Lists events packages
  version_outside : ∀ before tag body after,
    events = before ++ .openTag tag :: (body ++ .closeTag tag.name :: after) → Balanced body →
    isVersion tag.localName → Outside before → ∀ tag', ¬ isReference tag'.localName →
      scanReading ⟨before ++ .openTag tag' :: (body ++ .closeTag tag'.name :: after), none⟩ =
        .ok packages

theorem describes_of_scanReading {reading : Reading} (hnested : WellNested reading.events)
    {packages : List Package} (h : scanReading reading = .ok packages) :
    Describes reading.events packages := by
  obtain ⟨s, hrun, -, hdepth, hroots, rfl⟩ := (scanReading_eq_ok_iff _ _).mp h
  constructor
  case lists => exact (Scanned.of_run hnested hrun).lists
  case version_outside =>
    intro before tag body after hsplit hbody hversion hout tag' htag'
    have htag := isReference_of_isVersion hversion
    rw [hsplit] at hnested hrun
    rw [scanReading_eq_ok_iff]
    have hrenamed := run_rename hnested hbody hout htag (by simpa using htag') hrun
    exact ⟨s, hrenamed, rfl, hdepth, hroots, rfl⟩

theorem scanManifest_describes {text : String} {packages : List Package}
    (h : scanManifest text = .ok packages) : Describes (read text).events packages :=
  describes_of_scanReading (wellNested_read text) h

theorem describes_nested_references :
    scanManifest
        ("<a><PackageReference Include=\"x\"><PackageReference Include=\"y\"/>" ++
          "<Version>2</Version></PackageReference></a>") =
        .ok [⟨"y", "", "Unknown", none⟩, ⟨"x", "2", "Unknown", none⟩] ∧
      Describes
        (read ("<a><PackageReference Include=\"x\"><PackageReference Include=\"y\"/>" ++
          "<Version>2</Version></PackageReference></a>")).events
        [⟨"y", "", "Unknown", none⟩, ⟨"x", "2", "Unknown", none⟩] := by
  refine (and_iff_left_of_imp fun h => scanManifest_describes h).mpr ?_
  exact eq_ok_of_toOption (by decide +kernel)

end CodeAtlas.Manifest
