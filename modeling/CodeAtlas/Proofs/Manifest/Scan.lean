import CodeAtlas.Proofs.Except
import CodeAtlas.Proofs.Manifest.References

/-!
# The scanner and the document

A step of the scanner, told once with all it does, and what it keeps: after any events that it takes, the
depth is the number of open elements, the flag tells whether a version has begun, the pending reference
is the one begun last, and the records are those of the references that are complete.
-/

namespace CodeAtlas.Manifest

open Markup Keyed

section Step

/-- An element may begin here, for it is no second root. -/
def ScanState.Admits (s : ScanState) : Prop := s.depth = 0 → s.roots = 0

def ScanState.begun (s : ScanState) : ScanState :=
  { s with roots := if s.depth = 0 then 1 else s.roots }

inductive Step (s : ScanState) : Event → ScanState → Prop where
  | reference {tag : Tag} {pending : PendingReference} (admits : s.Admits)
      (named : isReference tag.localName) (read : PendingReference.ofTag tag = .ok pending) :
      Step s (.openTag tag) { s.begun with depth := s.depth + 1, current := some pending }
  | element {tag : Tag} (admits : s.Admits) (named : isReference tag.localName = false) :
      Step s (.openTag tag)
        { s.begun with
          depth := s.depth + 1
          inVersion := isVersion tag.localName && s.current.isSome || s.inVersion }
  | emptyReference {tag : Tag} {pending : PendingReference} (admits : s.Admits)
      (named : isReference tag.localName) (read : PendingReference.ofTag tag = .ok pending) :
      Step s (.emptyTag tag) (s.begun.emit pending)
  | emptyElement {tag : Tag} (admits : s.Admits) (named : isReference tag.localName = false) :
      Step s (.emptyTag tag) s.begun
  | version {raw text : List Char} (begun : s.inVersion) (read : decodeReferences raw = .ok text) :
      Step s (.text raw)
        { s with
          current := s.current.map fun pending =>
            { pending with versionElement := some (String.ofList text) } }
  | text {raw : List Char} (silent : s.inVersion = false) : Step s (.text raw) s
  | stop (name : List Char) :
      Step s (.closeTag name)
        { s with
          depth := s.depth - 1
          inVersion := !isVersion (localPart name) && s.inVersion
          current := if isReference (localPart name) then none else s.current
          packages := s.packages ++
            if isReference (localPart name) then
              (s.current.bind PendingReference.package?).toList
            else [] }
  | aside : Step s .aside s

theorem ScanState.Admits.countRoot {s : ScanState} (h : s.Admits) : s.countRoot = .ok s.begun := by
  rw [ScanState.countRoot, ScanState.begun]
  by_cases hdepth : s.depth = 0
  · simp [hdepth, h hdepth]
  · simp [hdepth]

theorem admits_of_countRoot {s s' : ScanState} (h : s.countRoot = .ok s') : s.Admits := by
  intro hdepth
  by_contra hroots
  simp [ScanState.countRoot, hdepth, hroots] at h

theorem Step.step_eq {s s' : ScanState} {e : Event} (h : Step s e s') : s.step e = .ok s' := by
  cases h with
  | reference admits named read =>
    rw [ScanState.step, admits.countRoot]
    simp [bind, Except.bind, named, read, ScanState.begun]
  | @element tag admits named =>
    rw [ScanState.step, admits.countRoot]
    cases isVersion tag.localName <;> cases hcurrent : s.current.isSome <;>
      simp [bind, Except.bind, named, hcurrent, ScanState.begun]
  | emptyReference admits named read =>
    rw [ScanState.step, admits.countRoot]
    simp [bind, Except.bind, named, read]
  | emptyElement admits named =>
    rw [ScanState.step, admits.countRoot]
    simp [bind, Except.bind, named]
  | version begun read =>
    rw [ScanState.step, if_pos begun, read]
    rfl
  | text silent =>
    rw [ScanState.step, silent]
    rfl
  | stop name =>
    rw [ScanState.step]
    by_cases hversion : isVersion (localPart name)
    · have hreference := isReference_of_isVersion hversion
      simp [hversion, hreference]
    · by_cases hreference : isReference (localPart name)
      · cases s.current <;> simp [hversion, hreference, ScanState.emit]
      · simp [hversion, hreference]
  | aside => rfl

structure ScanState.Takes (s : ScanState) (e : Event) : Prop where
  admits : e.begins → s.Admits
  reads : ∀ tag, e = .openTag tag ∨ e = .emptyTag tag → isReference tag.localName →
    ∃ pending, PendingReference.ofTag tag = .ok pending
  decodes : ∀ raw, e = .text raw → s.inVersion → ∃ text, decodeReferences raw = .ok text

theorem ScanState.Takes.exists_step {s : ScanState} {e : Event} (h : s.Takes e) :
    ∃ s', Step s e s' := by
  cases e with
  | openTag tag =>
    have hadmits : s.Admits := h.admits rfl
    by_cases hnamed : isReference tag.localName
    · obtain ⟨pending, hread⟩ := h.reads tag (Or.inl rfl) hnamed
      exact ⟨_, Step.reference hadmits hnamed hread⟩
    · exact ⟨_, Step.element hadmits (by simpa using hnamed)⟩
  | emptyTag tag =>
    have hadmits : s.Admits := h.admits rfl
    by_cases hnamed : isReference tag.localName
    · obtain ⟨pending, hread⟩ := h.reads tag (Or.inr rfl) hnamed
      exact ⟨_, Step.emptyReference hadmits hnamed hread⟩
    · exact ⟨_, Step.emptyElement hadmits (by simpa using hnamed)⟩
  | closeTag name => exact ⟨_, Step.stop name⟩
  | text raw =>
    by_cases hbegun : s.inVersion
    · obtain ⟨text, hread⟩ := h.decodes raw rfl hbegun
      exact ⟨_, Step.version hbegun hread⟩
    · exact ⟨_, Step.text (by simpa using hbegun)⟩
  | aside => exact ⟨_, Step.aside⟩

theorem takes_of_step_eq {s s' : ScanState} {e : Event} (h : s.step e = .ok s') : s.Takes e := by
  constructor
  case admits =>
    intro hbegins
    cases e with
    | openTag tag | emptyTag tag =>
      obtain ⟨s₁, hroot, -⟩ := (bind_eq_ok_iff _ _ _).mp h
      exact admits_of_countRoot hroot
    | closeTag name | text raw | aside => simp [Event.begins] at hbegins
  case reads =>
    rintro tag (rfl | rfl) hnamed
    · obtain ⟨s₁, -, hrest⟩ := (bind_eq_ok_iff _ _ _).mp h
      rw [if_pos hnamed] at hrest
      obtain ⟨pending, hread, -⟩ := (bind_eq_ok_iff _ _ _).mp hrest
      exact ⟨pending, hread⟩
    · obtain ⟨s₁, -, hrest⟩ := (bind_eq_ok_iff _ _ _).mp h
      rw [if_pos hnamed] at hrest
      obtain ⟨pending, hread, -⟩ := (bind_eq_ok_iff _ _ _).mp hrest
      exact ⟨pending, hread⟩
  case decodes =>
    rintro raw rfl hbegun
    rw [ScanState.step, if_pos hbegun] at h
    obtain ⟨text, hread, -⟩ := (bind_eq_ok_iff _ _ _).mp h
    exact ⟨text, (mapError_eq_ok_iff _ _ _).mp hread⟩

theorem step_eq_ok_iff (s s' : ScanState) (e : Event) : s.step e = .ok s' ↔ Step s e s' := by
  constructor
  · intro h
    obtain ⟨t, ht⟩ := (takes_of_step_eq h).exists_step
    have heq : t = s' := Except.ok.inj (ht.step_eq.symm.trans h)
    exact heq ▸ ht
  · exact Step.step_eq

theorem run_cons_eq_ok_iff (s s' : ScanState) (e : Event) (events : List Event) :
    s.run (e :: events) = .ok s' ↔ ∃ t, Step s e t ∧ t.run events = .ok s' := by
  rw [ScanState.run, bind_eq_ok_iff]
  simp only [step_eq_ok_iff]

theorem run_append_eq_ok_iff (s s' : ScanState) (xs ys : List Event) :
    s.run (xs ++ ys) = .ok s' ↔ ∃ t, s.run xs = .ok t ∧ t.run ys = .ok s' := by
  induction xs generalizing s with
  | nil =>
    constructor
    · intro h
      exact ⟨s, rfl, h⟩
    · rintro ⟨t, ht, h⟩
      cases ht
      exact h
  | cons e xs ih =>
    rw [List.cons_append]
    simp only [run_cons_eq_ok_iff, ih]
    constructor
    · rintro ⟨u, hstep, t, hxs, hys⟩
      exact ⟨t, ⟨u, hstep, hxs⟩, hys⟩
    · rintro ⟨t, ⟨u, hstep, hxs⟩, hys⟩
      exact ⟨u, hstep, t, hxs, hys⟩

theorem run_append {s t u : ScanState} {xs ys : List Event} (hxs : s.run xs = .ok t)
    (hys : t.run ys = .ok u) : s.run (xs ++ ys) = .ok u :=
  (run_append_eq_ok_iff _ _ _ _).mpr ⟨t, hxs, hys⟩

end Step

section Pending

theorem ofTag_eq_ok_iff (tag : Tag) (pending : PendingReference) :
    PendingReference.ofTag tag = .ok pending ↔
      ∃ name version, attributeText? tag "Include" = .ok name ∧
        attributeText? tag "Version" = .ok version ∧ pending = ⟨name.getD "", version, none⟩ := by
  rw [PendingReference.ofTag, bind_eq_ok_iff]
  constructor
  · rintro ⟨name, hname, h⟩
    obtain ⟨version, hversion, h⟩ := (bind_eq_ok_iff _ _ _).mp h
    exact ⟨name, version, hname, hversion, (Except.ok.inj h).symm⟩
  · rintro ⟨name, version, hname, hversion, rfl⟩
    exact ⟨name, hname, (bind_eq_ok_iff _ _ _).mpr ⟨version, hversion, rfl⟩⟩

theorem names_of_ofTag {tag : Tag} {pending : PendingReference} (htag : isReference tag.localName)
    (h : PendingReference.ofTag tag = .ok pending) (hname : ¬ Text.isBlankText pending.name) :
    Names tag pending.name pending.version := by
  obtain ⟨name, version, hinclude, hversion, rfl⟩ := (ofTag_eq_ok_iff tag pending).mp h
  cases name with
  | none => exact absurd (by decide : Text.isBlankText "" = true) hname
  | some name => exact ⟨htag, hinclude, hversion⟩

theorem Names.eq_of_ofTag {tag : Tag} {pending : PendingReference} {name : String}
    {version : Option String} (h : Names tag name version)
    (hread : PendingReference.ofTag tag = .ok pending) :
    pending.name = name ∧ pending.version = version := by
  obtain ⟨name', version', hinclude, hversion, rfl⟩ := (ofTag_eq_ok_iff tag pending).mp hread
  have hname : name' = some name := Except.ok.inj (hinclude.symm.trans h.name_eq)
  have heq : version' = version := Except.ok.inj (hversion.symm.trans h.version_eq)
  simp [hname, heq]

theorem package?_of_blank {pending : PendingReference} (h : Text.isBlankText pending.name) :
    pending.package? = none := by
  rw [PendingReference.package?, if_pos h]

theorem package?_of_not_blank {pending : PendingReference} (h : ¬ Text.isBlankText pending.name) :
    pending.package? = some (annotate
      (.plain pending.name ((pending.version.or pending.versionElement).getD ""))) := by
  rw [PendingReference.package?, if_neg h]
  cases pending.version <;> rfl

theorem lastVersion_nil (before : List Event) : LastVersion before [] none := by
  rw [LastVersion, versionTexts_nil]
  exact Option.Rel.none

theorem LastVersion.extend {before body : List Event} {version : Option String}
    (h : LastVersion before body version) {e : Event}
    (he : rawText? e = none ∨ versionBegun (before ++ body) = false) :
    LastVersion before (body ++ [e]) version := by
  have hsame : versionTexts before (body ++ [e]) = versionTexts before body := by
    rw [versionTexts_concat]
    rcases he with hraw | hbegun
    · simp [hraw]
    · simp [hbegun]
  rw [LastVersion, hsame]
  exact h

theorem lastVersion_concat_text {before body : List Event} {raw text : List Char}
    (hbegun : versionBegun (before ++ body)) (hread : decodeReferences raw = .ok text) :
    LastVersion before (body ++ [.text raw]) (some (String.ofList text)) := by
  have hlast : (versionTexts before (body ++ [.text raw])).getLast? = some raw := by
    rw [versionTexts_concat, if_pos hbegun]
    simp [rawText?]
  rw [LastVersion, hlast]
  apply Option.Rel.some
  rw [hread]
  rfl

/-- Of the reference that was begun last, this much is known. -/
structure Begun (events : List Event) (pending : PendingReference) (before : List Event) (tag : Tag)
    (body : List Event) : Prop where
  split : events = before ++ .openTag tag :: body
  named : isReference tag.localName
  silent : ∀ e ∈ body, starts isReference e = false ∧ ends isReference e = false
  read : PendingReference.ofTag tag = .ok { pending with versionElement := none }
  last : LastVersion (before ++ [.openTag tag]) body pending.versionElement

def Current (events : List Event) : Option PendingReference → Prop
  | none => referenceBegun events = false
  | some pending => ∃ before tag body, Begun events pending before tag body

theorem Current.isSome_eq {events : List Event} {current : Option PendingReference}
    (h : Current events current) : current.isSome = referenceBegun events := by
  cases current with
  | none => exact Eq.symm h
  | some pending =>
    obtain ⟨before, tag, body, hbegun⟩ := h
    exact ((referenceBegun_iff events).mpr
      ⟨before, tag, body, hbegun.split, hbegun.named, hbegun.silent⟩).symm

theorem Begun.concat {events before body : List Event} {pending : PendingReference} {tag : Tag}
    (h : Begun events pending before tag body) {e : Event} (hstart : starts isReference e = false)
    (hend : ends isReference e = false) {element : Option String}
    (hlast : LastVersion (before ++ [.openTag tag]) (body ++ [e]) element) :
    Begun (events ++ [e]) { pending with versionElement := element } before tag (body ++ [e]) where
  split := by simp [h.split]
  named := h.named
  silent := by
    intro e' he'
    rcases List.mem_append.mp he' with hin | hnew
    · exact h.silent e' hin
    · rw [List.mem_singleton.mp hnew]
      exact ⟨hstart, hend⟩
  read := h.read
  last := hlast

theorem Current.extend {events : List Event} {current : Option PendingReference}
    (h : Current events current) {e : Event} (hstart : starts isReference e = false)
    (hend : ends isReference e = false)
    (he : rawText? e = none ∨ versionBegun events = false) : Current (events ++ [e]) current := by
  cases current with
  | none =>
    rw [Current, referenceBegun_concat, hstart, hend]
    exact h
  | some pending =>
    obtain ⟨before, tag, body, hbegun⟩ := h
    have hlast : rawText? e = none ∨ versionBegun ((before ++ [.openTag tag]) ++ body) = false := by
      rw [hbegun.split] at he
      simpa using he
    exact ⟨before, tag, body ++ [e], hbegun.concat hstart hend (hbegun.last.extend hlast)⟩

theorem Current.text {events : List Event} {current : Option PendingReference}
    (h : Current events current) {raw text : List Char} (hbegun : versionBegun events)
    (hread : decodeReferences raw = .ok text) :
    Current (events ++ [.text raw]) (current.map fun pending =>
      { pending with versionElement := some (String.ofList text) }) := by
  cases current with
  | none =>
    change referenceBegun (events ++ [.text raw]) = false
    rw [referenceBegun_concat]
    exact h
  | some pending =>
    obtain ⟨before, tag, body, hb⟩ := h
    have hversion : versionBegun ((before ++ [.openTag tag]) ++ body) := by
      rw [hb.split] at hbegun
      simpa using hbegun
    exact ⟨before, tag, body ++ [.text raw],
      hb.concat rfl rfl (lastVersion_concat_text hversion hread)⟩

theorem Current.step {events : List Event} {s s' : ScanState} {e : Event}
    (h : Current events s.current) (hversion : s.inVersion = versionBegun events)
    (hstep : Step s e s') : Current (events ++ [e]) s'.current := by
  cases hstep with
  | @reference tag pending _ named read =>
    obtain ⟨name, version, -, -, rfl⟩ := (ofTag_eq_ok_iff tag pending).mp read
    exact ⟨events, tag, [], rfl, named, by simp, read, lastVersion_nil _⟩
  | element _ named => exact h.extend named rfl (Or.inl rfl)
  | emptyReference => exact h.extend rfl rfl (Or.inl rfl)
  | emptyElement => exact h.extend rfl rfl (Or.inl rfl)
  | version begun read => exact h.text (hversion ▸ begun) read
  | text silent => exact h.extend rfl rfl (Or.inr (hversion ▸ silent))
  | stop name =>
    change Current _ (if isReference (localPart name) then none else s.current)
    by_cases hnamed : isReference (localPart name)
    · have hends : ends isReference (.closeTag name) = true := hnamed
      rw [if_pos hnamed, Current, referenceBegun_concat, hends]
      rfl
    · have hends : ends isReference (.closeTag name) = false := by simpa [ends] using hnamed
      rw [if_neg hnamed]
      exact h.extend rfl hends (Or.inl rfl)
  | aside => exact h.extend rfl rfl (Or.inl rfl)

end Pending

section Completed

theorem Completes.of_emptyTag {events : List Event} {tag : Tag} {pending : PendingReference}
    (htag : isReference tag.localName) (hread : PendingReference.ofTag tag = .ok pending)
    (hname : ¬ Text.isBlankText pending.name) :
    Completes events (.emptyTag tag)
      (annotate (.plain pending.name ((pending.version.or pending.versionElement).getD ""))) := by
  obtain ⟨name, version, -, -, rfl⟩ := (ofTag_eq_ok_iff tag pending).mp hread
  rw [Option.or_none]
  exact Completes.empty (names_of_ofTag htag hread hname) (records_annotate hname _)

theorem Lists.emptyTag {events : List Event} {packages : List Package} (h : Lists events packages)
    {tag : Tag} {pending : PendingReference} (htag : isReference tag.localName)
    (hread : PendingReference.ofTag tag = .ok pending) :
    Lists (events ++ [.emptyTag tag]) (packages ++ pending.package?.toList) := by
  by_cases hname : Text.isBlankText pending.name
  · rw [package?_of_blank hname, Option.toList_none, List.append_nil]
    apply h.concat_of_not
    intro package hcompletes
    cases hcompletes with
    | empty names records =>
      obtain ⟨rfl, -⟩ := names.eq_of_ofTag hread
      exact records.named hname
  · rw [package?_of_not_blank hname]
    exact h.concat_of_completes (Completes.of_emptyTag htag hread hname)

theorem Begun.balanced {events : List Event} {pending : PendingReference} {before body : List Event}
    {tag : Tag} (h : Begun events pending before tag body) {name : List Char}
    (hnested : WellNested (events ++ [.closeTag name])) (hname : isReference (localPart name)) :
    tag.name = name ∧ Balanced body := by
  obtain ⟨hevents, hclose⟩ := (WellNested.concat_iff _ _).mp hnested
  obtain ⟨top, outer, hopen, htop⟩ := hclose name rfl
  obtain ⟨start, inside, hsplit, hbalanced, -⟩ := hevents.exists_start hopen
  have htopnamed : isReference top.localName := by
    rw [Tag.localName, htop]
    exact hname
  rcases append_cons_cases (h.split.symm.trans hsplit) with ⟨-, heq, hrest⟩ | ⟨mid, -, hin⟩ | ⟨mid, -, hin⟩
  · cases heq
    exact ⟨htop, hrest ▸ hbalanced⟩
  · -- The tag stands inside the element that ends, so its own end tag stands there too.
    obtain ⟨within, rest, rfl, -⟩ := hbalanced.exists_stop hin
    have hends := (h.silent (.closeTag tag.name) (by simp)).2
    exact absurd h.named (not_named_of_ends hends)
  · have hstarts := (h.silent (.openTag top) (by simp [hin])).1
    exact absurd htopnamed (not_named_of_starts hstarts)

theorem begins_of_alone (before : List Event) {body : List Event} {tag : Tag}
    (hnamed : isReference tag.localName) (hbody : Balanced body) (halone : Alone body) :
    referenceBegun (before ++ .openTag tag :: body) :=
  (referenceBegun_iff _).mpr ⟨before, tag, body, rfl, hnamed, (alone_iff hbody).mp halone⟩

theorem Lists.closeTag {events : List Event} {packages : List Package} (h : Lists events packages)
    {current : Option PendingReference} (hcurrent : Current events current) {name : List Char}
    (hnested : WellNested (events ++ [.closeTag name])) (hname : isReference (localPart name)) :
    Lists (events ++ [.closeTag name])
      (packages ++ (current.bind PendingReference.package?).toList) := by
  cases current with
  | none =>
    rw [Option.bind_none, Option.toList_none, List.append_nil]
    apply h.concat_of_not
    intro package hcompletes
    cases hcompletes with
    | @pair outside body tag _ _ _ _ names balanced alone =>
      have hbegun := begins_of_alone outside names.isReference balanced alone
      rw [hcurrent] at hbegun
      cases hbegun
  | some pending =>
    obtain ⟨before, tag, body, hb⟩ := hcurrent
    obtain ⟨rfl, hbalanced⟩ := hb.balanced hnested hname
    rw [Option.bind_some]
    by_cases hblank : Text.isBlankText pending.name
    · rw [package?_of_blank hblank, Option.toList_none, List.append_nil]
      apply h.concat_of_not
      intro package hcompletes
      generalize hevents : events = events', hstop : Event.closeTag tag.name = e at hcompletes
      cases hcompletes with
      | empty => cases hstop
      | @pair outside body' tag' _ _ _ _ names balanced alone _ records =>
        have hsilent := (alone_iff balanced).mp alone
        obtain ⟨-, rfl, -⟩ := last_start_unique (hb.split.symm.trans hevents) hb.named
          names.isReference (fun e he => (hb.silent e he).1) fun e he => (hsilent e he).1
        obtain ⟨rfl, -⟩ := names.eq_of_ofTag hb.read
        exact records.named hblank
    · rw [package?_of_not_blank hblank]
      apply h.concat_of_completes
      rw [hb.split]
      exact Completes.pair (names_of_ofTag hb.named hb.read hblank) hbalanced
        ((alone_iff hbalanced).mpr hb.silent) hb.last (records_annotate hblank _)

theorem Lists.step {events : List Event} {s s' : ScanState} {e : Event} (h : Lists events s.packages)
    (hcurrent : Current events s.current) (hnested : WellNested (events ++ [e]))
    (hstep : Step s e s') : Lists (events ++ [e]) s'.packages := by
  cases hstep with
  | reference => exact h.concat_of_not fun package hc => by cases hc
  | element => exact h.concat_of_not fun package hc => by cases hc
  | emptyReference _ named read => exact h.emptyTag named read
  | @emptyElement tag _ named =>
    apply h.concat_of_not
    intro package hcompletes
    cases hcompletes with
    | empty names =>
      rw [names.isReference] at named
      cases named
  | version => exact h.concat_of_not fun package hc => by cases hc
  | text => exact h.concat_of_not fun package hc => by cases hc
  | stop name =>
    change Lists _ (s.packages ++ if isReference (localPart name) then
      (s.current.bind PendingReference.package?).toList else [])
    by_cases hnamed : isReference (localPart name)
    · rw [if_pos hnamed]
      exact h.closeTag hcurrent hnested hnamed
    · rw [if_neg hnamed, List.append_nil]
      apply h.concat_of_not
      intro package hcompletes
      cases hcompletes with
      | pair names => exact hnamed names.isReference
  | aside => exact h.concat_of_not fun package hc => by cases hc

end Completed

theorem ScanState.Admits.roots_begun {s : ScanState} (h : s.Admits) :
    s.begun.roots = s.roots + if s.depth = 0 then 1 else 0 := by
  by_cases hdepth : s.depth = 0
  · simp [ScanState.begun, hdepth, h hdepth]
  · simp [ScanState.begun, hdepth]

/-- What the state of the scanner says of the events before it. -/
structure Scanned (events : List Event) (s : ScanState) : Prop where
  depth : s.depth = (openElements events).length
  roots : s.roots = (rootElements events).length
  roots_le : s.roots ≤ 1
  inVersion : s.inVersion = versionBegun events
  current : Current events s.current
  lists : Lists events s.packages

namespace Scanned

variable {events : List Event} {s s' : ScanState} {e : Event}

theorem initial : Scanned [] .initial where
  depth := rfl
  roots := rfl
  roots_le := Nat.zero_le 1
  inVersion := rfl
  current := rfl
  lists := Lists.nil

theorem depth_eq_zero_iff (h : Scanned events s) : s.depth = 0 ↔ openElements events = [] := by
  rw [h.depth, List.length_eq_zero_iff]

theorem depth_step (h : Scanned events s) (hstep : Step s e s') :
    s'.depth = (openElements (events ++ [e])).length := by
  rw [openElements_append, List.foldl_cons, List.foldl_nil]
  have hdepth := h.depth
  cases hstep <;> simp [nest, ScanState.begun, ScanState.emit, hdepth]

theorem roots_step (h : Scanned events s) (hstep : Step s e s') :
    s'.roots = (rootElements (events ++ [e])).length ∧ s'.roots ≤ 1 := by
  have hroots := h.roots
  have hle := h.roots_le
  have hempty : (openElements events).isEmpty = decide (s.depth = 0) := by
    rw [Bool.eq_iff_iff, List.isEmpty_iff, decide_eq_true_iff, h.depth_eq_zero_iff]
  rw [length_rootElements_concat, hempty]
  -- Only a tag that begins an element can be a root.
  have hbegun (hadmits : s.Admits) :
      s.begun.roots = (rootElements events).length + (if s.depth = 0 then 1 else 0) ∧
        s.begun.roots ≤ 1 := by
    constructor
    · rw [hadmits.roots_begun, hroots]
    · rw [hadmits.roots_begun]
      by_cases hdepth : s.depth = 0
      · simp [hdepth, hadmits hdepth]
      · simpa [hdepth] using hle
  cases hstep with
  | reference hadmits => simpa [Event.begins] using hbegun hadmits
  | element hadmits => simpa [Event.begins] using hbegun hadmits
  | emptyReference hadmits => simpa [Event.begins, ScanState.emit] using hbegun hadmits
  | emptyElement hadmits => simpa [Event.begins] using hbegun hadmits
  | version => exact ⟨hroots, hle⟩
  | text => exact ⟨hroots, hle⟩
  | stop name => exact ⟨hroots, hle⟩
  | aside => exact ⟨hroots, hle⟩

theorem inVersion_step (h : Scanned events s) (hstep : Step s e s') :
    s'.inVersion = versionBegun (events ++ [e]) := by
  have hversion := h.inVersion
  have hsome := h.current.isSome_eq
  rw [versionBegun_concat]
  cases hstep with
  | reference _ named =>
    have hno := isVersion_of_isReference named
    simpa [ends, starts, hno, ScanState.begun] using hversion
  | element => simp [ends, starts, hsome, hversion]
  | emptyReference => simpa [ends, starts, ScanState.begun, ScanState.emit] using hversion
  | emptyElement => simpa [ends, starts, ScanState.begun] using hversion
  | version => simpa [ends, starts] using hversion
  | text => simpa [ends, starts] using hversion
  | stop name => simp [ends, starts, hversion]
  | aside => simpa [ends, starts] using hversion

theorem step (h : Scanned events s) (hnested : WellNested (events ++ [e])) (hstep : Step s e s') :
    Scanned (events ++ [e]) s' where
  depth := h.depth_step hstep
  roots := (h.roots_step hstep).1
  roots_le := (h.roots_step hstep).2
  inVersion := h.inVersion_step hstep
  current := h.current.step h.inVersion hstep
  lists := h.lists.step h.current hnested hstep

theorem run {later : List Event} (h : Scanned events s) (hnested : WellNested (events ++ later))
    (hrun : s.run later = .ok s') : Scanned (events ++ later) s' := by
  induction later generalizing events s with
  | nil =>
    cases hrun
    simpa using h
  | cons e later ih =>
    obtain ⟨t, hstep, hrest⟩ := (run_cons_eq_ok_iff _ _ _ _).mp hrun
    have hsplit : events ++ e :: later = (events ++ [e]) ++ later := by simp
    rw [hsplit] at hnested ⊢
    exact ih (h.step hnested.of_append hstep) hnested hrest

theorem of_run (hnested : WellNested events) (hrun : ScanState.initial.run events = .ok s) :
    Scanned events s :=
  initial.run hnested hrun

end Scanned

end CodeAtlas.Manifest
