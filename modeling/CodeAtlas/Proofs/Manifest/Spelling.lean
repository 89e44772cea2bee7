import CodeAtlas.Proofs.Manifest.Scan
import CodeAtlas.Proofs.Markup.Written

/-!
# Ways to write a reference

A version may stand among the attributes of a reference or in an element inside it. However it is
written, the scanner makes the same record of it and is left as it was.
-/

namespace CodeAtlas.Manifest

open Markup

def escaped (text : String) : String := String.ofList (escape text.toList)

/-- A reference to a package, with its version in one of the places where it may stand. -/
inductive Spells (name version : String) : String → Prop where
  | empty : Spells name version
      ("<PackageReference Include=\"" ++ escaped name ++ "\" Version=\"" ++ escaped version ++ "\"/>")
  | pair : Spells name version
      ("<PackageReference Include=\"" ++ escaped name ++ "\" Version=\"" ++ escaped version ++
        "\"></PackageReference>")
  | element : Spells name version
      ("<PackageReference Include=\"" ++ escaped name ++ "\"><Version>" ++ escaped version ++
        "</Version></PackageReference>")

/-- Inside an element and outside of all references, some text gives a record and nothing else. -/
structure Contributes (text : List Char) (events : List Event) (package : Package) : Prop where
  reads : ∀ seen, Reads (.content seen) text (.content []) (textEvents seen ++ events)
  balanced : Balanced events
  run_eq : ∀ s : ScanState, 0 < s.depth → s.inVersion = false → s.current = none →
    s.run events = .ok { s with packages := s.packages ++ [package] }

section Tags

theorem attributeText?_writtenTag {name : String} (hname : IsWord name.toList)
    {attributes : List (String × String)} (hkeys : ∀ a ∈ attributes, IsWord a.1.toList) (key : String) :
    attributeText? ⟨writtenTag name attributes⟩ key = .ok (attributes.lookup key) := by
  rw [attributeText?, attribute?_writtenTag hname hkeys]
  cases attributes.lookup key with
  | none => rfl
  | some value =>
    have hread : (decodeReferences (escape value.toList)).mapError Fault.entity = .ok value.toList :=
      (mapError_eq_ok_iff _ _ _).mpr (decodeReferences_escape value.toList)
    rw [bind_eq_ok_iff]
    refine ⟨some (escape value.toList), rfl, (bind_eq_ok_iff _ _ _).mpr ⟨value.toList, hread, ?_⟩⟩
    rw [String.ofList_toList]

theorem isWord_reference : IsWord "PackageReference".toList :=
  isWord_of_all (by decide) (by decide)

theorem isWord_version : IsWord "Version".toList := isWord_of_all (by decide) (by decide)

theorem isWord_include : IsWord "Include".toList := isWord_of_all (by decide) (by decide)

def referenceTag (attributes : List (String × String)) : Tag :=
  ⟨writtenTag "PackageReference" attributes⟩

theorem name_referenceTag (attributes : List (String × String)) :
    (referenceTag attributes).name = "PackageReference".toList := name_writtenTag isWord_reference

theorem isReference_referenceTag (attributes : List (String × String)) :
    isReference (referenceTag attributes).localName := by
  rw [Tag.localName, name_referenceTag]
  decide

theorem isWord_keys {name version : String} :
    ∀ a ∈ [("Include", name), ("Version", version)], IsWord a.1.toList := by
  simp only [List.forall_mem_cons]
  exact ⟨isWord_include, isWord_version, by simp⟩

theorem isWord_key {name : String} : ∀ a ∈ [("Include", name)], IsWord a.1.toList := by
  simp only [List.forall_mem_cons]
  exact ⟨isWord_include, by simp⟩

theorem ofTag_attributes (name version : String) :
    PendingReference.ofTag (referenceTag [("Include", name), ("Version", version)]) =
      .ok ⟨name, some version, none⟩ := by
  rw [ofTag_eq_ok_iff]
  refine ⟨some name, some version, ?_, ?_, rfl⟩
  · exact attributeText?_writtenTag isWord_reference isWord_keys "Include"
  · exact attributeText?_writtenTag isWord_reference isWord_keys "Version"

theorem ofTag_attribute (name : String) :
    PendingReference.ofTag (referenceTag [("Include", name)]) = .ok ⟨name, none, none⟩ := by
  rw [ofTag_eq_ok_iff]
  refine ⟨some name, none, ?_, ?_, rfl⟩
  · exact attributeText?_writtenTag isWord_reference isWord_key "Include"
  · exact attributeText?_writtenTag isWord_reference isWord_key "Version"

end Tags

section Runs

variable {s : ScanState}

theorem ScanState.begun_of_pos (h : 0 < s.depth) : s.begun = s := by
  rw [ScanState.begun, if_neg (Nat.pos_iff_ne_zero.mp h)]

theorem ScanState.admits_of_pos (h : 0 < s.depth) : s.Admits :=
  fun hzero => absurd hzero (Nat.pos_iff_ne_zero.mp h)

theorem run_pair (hdepth : 0 < s.depth) {tag : Tag} {pending pending' : PendingReference}
    {inside : List Event} (hnamed : isReference tag.localName)
    (hread : PendingReference.ofTag tag = .ok pending)
    (hinside : ScanState.run { s with depth := s.depth + 1, current := some pending } inside =
      .ok { s with depth := s.depth + 1, current := some pending' }) :
    s.run (.openTag tag :: (inside ++ [.closeTag tag.name])) =
      .ok { s with current := none, packages := s.packages ++ pending'.package?.toList } := by
  rw [run_cons_eq_ok_iff]
  refine ⟨_, Step.reference (ScanState.admits_of_pos hdepth) hnamed hread, ?_⟩
  rw [ScanState.begun_of_pos hdepth, run_append_eq_ok_iff]
  refine ⟨_, hinside, ?_⟩
  rw [run_cons_eq_ok_iff]
  refine ⟨_, Step.stop tag.name, ?_⟩
  have hreference : isReference (localPart tag.name) = true := hnamed
  have hversion : isVersion (localPart tag.name) = false := isVersion_of_isReference hnamed
  simp [ScanState.run, hreference, hversion]

theorem textEvents_escape {cs : List Char} (h : Trimmed cs) (hne : cs ≠ []) :
    textEvents (escape cs).reverse = [.text (escape cs)] := by
  obtain ⟨c, rest, rfl⟩ := List.exists_cons_of_ne_nil hne
  obtain ⟨hc, -⟩ := trimmed_escapeChar (h.1 c rfl)
  rw [textEvents, List.reverse_reverse, h.escape.trimSpaces_eq]
  split
  · next hnil =>
    rw [escape, List.flatMap_cons, List.append_eq_nil_iff] at hnil
    exact absurd hnil.1 hc
  · rfl

theorem run_version (hdepth : 0 < s.depth) (hbegun : s.inVersion = false) {pending : PendingReference}
    (hcurrent : s.current = some pending) {tag : Tag} (hnamed : isVersion tag.localName)
    {version : List Char} (hversion : Trimmed version) :
    s.run (.openTag tag :: (textEvents (escape version).reverse ++ [.closeTag tag.name])) =
      .ok { s with
        current := some { pending with
          versionElement :=
            if version = [] then pending.versionElement else some (String.ofList version) } } := by
  have hreference : isReference (localPart tag.name) = false := isReference_of_isVersion hnamed
  have hstop : isVersion (localPart tag.name) = true := hnamed
  rw [run_cons_eq_ok_iff]
  refine ⟨_, Step.element (ScanState.admits_of_pos hdepth) hreference, ?_⟩
  rw [ScanState.begun_of_pos hdepth, hnamed, hcurrent, run_append_eq_ok_iff]
  by_cases hempty : version = []
  · subst hempty
    refine ⟨_, rfl, (run_cons_eq_ok_iff _ _ _ _).mpr ⟨_, Step.stop _, ?_⟩⟩
    simp [ScanState.run, hreference, hstop, hbegun, hcurrent]
  · rw [textEvents_escape hversion hempty]
    refine ⟨_, (run_cons_eq_ok_iff _ _ _ _).mpr ⟨_, Step.version rfl (decodeReferences_escape version),
      rfl⟩, (run_cons_eq_ok_iff _ _ _ _).mpr ⟨_, Step.stop _, ?_⟩⟩
    simp [ScanState.run, hreference, hstop, hbegun, hempty, hcurrent]

end Runs

section Forms

variable {name version : String}

theorem package?_eq (hname : ¬ Text.isBlankText name) {inAttribute inElement : Option String}
    (h : (inAttribute.or inElement).getD "" = version) :
    (PendingReference.mk name inAttribute inElement).package? = some (annotate (.plain name version)) := by
  rw [package?_of_not_blank hname, h]

theorem contributes_empty (hname : ¬ Text.isBlankText name) (version : String) : Contributes
    ('<' :: (writtenTag "PackageReference" [("Include", name), ("Version", version)] ++ ['/', '>']))
    [.emptyTag (referenceTag [("Include", name), ("Version", version)])]
    (annotate (.plain name version)) := by
  constructor
  case reads => exact Reads.emptyTag (inBrackets_writtenTag isWord_reference isWord_keys)
  case balanced => exact Balanced.nil.flat rfl
  case run_eq =>
    intro s hdepth _ _
    have hpackage : (PendingReference.mk name (some version) none).package? =
        some (annotate (.plain name version)) := package?_eq hname rfl
    rw [run_cons_eq_ok_iff]
    refine ⟨_, Step.emptyReference (ScanState.admits_of_pos hdepth) (isReference_referenceTag _)
      (ofTag_attributes name version), ?_⟩
    rw [ScanState.begun_of_pos hdepth, ScanState.emit, hpackage]
    rfl

theorem contributes_around {attributes : List (String × String)}
    (hkeys : ∀ a ∈ attributes, IsWord a.1.toList) {text : List Char} {inside : List Event}
    {pending pending' : PendingReference} {package : Package}
    (hread : PendingReference.ofTag (referenceTag attributes) = .ok pending)
    (htext : Reads (.content []) text (.content []) inside) (hbalanced : Balanced inside)
    (hinside : ∀ s : ScanState, 0 < s.depth → s.inVersion = false → s.current = some pending →
      s.run inside = .ok { s with current := some pending' })
    (hpackage : pending'.package? = some package) :
    Contributes
      ('<' :: (writtenTag "PackageReference" attributes ++ ['>']) ++
        (text ++ '<' :: '/' :: ("PackageReference".toList ++ ['>'])))
      (.openTag (referenceTag attributes) :: (inside ++ [.closeTag "PackageReference".toList]))
      package := by
  constructor
  case reads =>
    intro seen
    have hstart : Reads _ _ _ (textEvents seen ++ [.openTag (referenceTag attributes)]) :=
      Reads.openTag (inBrackets_writtenTag isWord_reference hkeys) seen
    have hstop := Reads.closeTag isWord_reference []
    have hall := hstart.append (htext.append hstop)
    rw [List.append_assoc, textEvents_nil, List.nil_append] at hall
    exact hall
  case balanced =>
    rw [← name_referenceTag attributes]
    exact hbalanced.element _ Balanced.nil
  case run_eq =>
    intro s hdepth hversion hcurrent
    have hrun := run_pair hdepth (isReference_referenceTag attributes) hread
      (hinside _ (Nat.succ_pos _) hversion rfl)
    rw [name_referenceTag, hpackage] at hrun
    rw [hrun, hcurrent]
    rfl

theorem contributes_pair (hname : ¬ Text.isBlankText name) (version : String) : Contributes
    ('<' :: (writtenTag "PackageReference" [("Include", name), ("Version", version)] ++ ['>']) ++
      ([] ++ '<' :: '/' :: ("PackageReference".toList ++ ['>'])))
    (.openTag (referenceTag [("Include", name), ("Version", version)]) ::
      ([] ++ [.closeTag "PackageReference".toList]))
    (annotate (.plain name version)) := by
  apply contributes_around isWord_keys (ofTag_attributes name version) (Reads.done _) Balanced.nil
  · intro s _ _ hcurrent
    rw [← hcurrent]
    rfl
  · exact package?_eq hname rfl

def versionElement (version : String) : List Char :=
  '<' :: (writtenTag "Version" [] ++ ['>']) ++
    (escape version.toList ++ '<' :: '/' :: ("Version".toList ++ ['>']))

def versionEvents (version : String) : List Event :=
  .openTag ⟨writtenTag "Version" []⟩ ::
    (textEvents (escape version.toList).reverse ++ [.closeTag "Version".toList])

theorem reads_versionElement (version : String) :
    Reads (.content []) (versionElement version) (.content []) (versionEvents version) := by
  have hstart := Reads.openTag (inBrackets_writtenTag isWord_version (List.forall_mem_nil _)) []
  have htext := Reads.content (not_mem_escape (by simp) version.toList) []
  have hstop := Reads.closeTag isWord_version (escape version.toList).reverse
  rw [List.append_nil] at htext
  have hall := hstart.append (htext.append hstop)
  simpa [versionElement, versionEvents] using hall

theorem contributes_element (hname : ¬ Text.isBlankText name) (hversion : Trimmed version.toList) :
    Contributes
      ('<' :: (writtenTag "PackageReference" [("Include", name)] ++ ['>']) ++
        (versionElement version ++ '<' :: '/' :: ("PackageReference".toList ++ ['>'])))
      (.openTag (referenceTag [("Include", name)]) ::
        (versionEvents version ++ [.closeTag "PackageReference".toList]))
      (annotate (.plain name version)) := by
  have htag : Tag.name ⟨writtenTag "Version" []⟩ = "Version".toList := name_writtenTag isWord_version
  apply contributes_around isWord_key (ofTag_attribute name) (reads_versionElement version)
  · rw [versionEvents, ← htag]
    exact (Balanced.textEvents _).element _ Balanced.nil
  · intro s hdepth hbegun hcurrent
    rw [versionEvents, ← htag]
    exact run_version hdepth hbegun hcurrent (by decide) hversion
  · apply package?_eq hname
    by_cases hempty : version.toList = []
    · simp_all
    · simp [hempty]

theorem Spells.contributes {text : String} (h : Spells name version text)
    (hname : ¬ Text.isBlankText name) (hversion : Trimmed version.toList) :
    ∃ events, Contributes text.toList events (annotate (.plain name version)) := by
  cases h with
  | empty =>
    have htext : '<' :: (writtenTag "PackageReference" [("Include", name), ("Version", version)] ++
        ['/', '>']) = ("<PackageReference Include=\"" ++ escaped name ++ "\" Version=\"" ++
          escaped version ++ "\"/>").toList := by
      simp [writtenTag, writtenAttribute, escaped]
    exact ⟨_, htext ▸ contributes_empty hname version⟩
  | pair =>
    have htext : '<' :: (writtenTag "PackageReference" [("Include", name), ("Version", version)] ++
        ['>']) ++ ([] ++ '<' :: '/' :: ("PackageReference".toList ++ ['>'])) =
        ("<PackageReference Include=\"" ++ escaped name ++ "\" Version=\"" ++ escaped version ++
          "\"></PackageReference>").toList := by
      simp [writtenTag, writtenAttribute, escaped]
    exact ⟨_, htext ▸ contributes_pair hname version⟩
  | element =>
    have htext : '<' :: (writtenTag "PackageReference" [("Include", name)] ++ ['>']) ++
        (versionElement version ++ '<' :: '/' :: ("PackageReference".toList ++ ['>'])) =
        ("<PackageReference Include=\"" ++ escaped name ++ "\"><Version>" ++ escaped version ++
          "</Version></PackageReference>").toList := by
      simp [writtenTag, writtenAttribute, versionElement, escaped]
    exact ⟨_, htext ▸ contributes_element hname hversion⟩

end Forms

end CodeAtlas.Manifest
