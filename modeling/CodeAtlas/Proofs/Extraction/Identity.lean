import CodeAtlas.Proofs.Extraction.Outcome
import CodeAtlas.Proofs.Keyed.Positions
import Mathlib.Data.Finset.Card

/-!
# Which types share an id

An id joins a project, a namespace and a name. A name without a dot is all that stands behind the last
dot of its id, so two types of a project share an id just if they have one name and one namespace. The
types outside every namespace are filed under `Global`, together with those of a namespace of that name.
-/

namespace CodeAtlas

open Keyed

theorem Keyed.length_eraseDups {α : Type} [DecidableEq α] (xs : List α) :
    xs.eraseDups.length = xs.toFinset.card := by
  have hset : xs.eraseDups.toFinset = xs.toFinset := by
    ext x
    rw [List.mem_toFinset, List.mem_toFinset, List.mem_eraseDups]
  rw [← hset, List.toFinset_card_of_nodup (nodup_eraseDups xs)]

theorem toList_moduleId (project nspace name : String) : (moduleId project nspace name).toList =
    (project.toList ++ ':' :: nspace.toList) ++ '.' :: name.toList := by
  simp [moduleId]

/-- A name without a dot is read off an id from behind. -/
theorem moduleId_eq_iff {project nspace name project' nspace' name' : String}
    (hname : '.' ∉ name.toList) (hname' : '.' ∉ name'.toList) :
    moduleId project nspace name = moduleId project' nspace' name' ↔
      project.toList ++ ':' :: nspace.toList = project'.toList ++ ':' :: nspace'.toList ∧
        name = name' := by
  rw [← String.toList_inj, toList_moduleId, toList_moduleId, append_separator_inj hname hname',
    String.toList_inj]

theorem moduleId_inj_of_project {project nspace name nspace' name' : String}
    (hname : '.' ∉ name.toList) (hname' : '.' ∉ name'.toList) :
    moduleId project nspace name = moduleId project nspace' name' ↔
      nspace = nspace' ∧ name = name' := by
  rw [moduleId_eq_iff hname hname', List.append_cancel_left_eq, List.cons.injEq, String.toList_inj,
    and_iff_right rfl]

namespace TypeDeclaration

def place (t : TypeDeclaration) : String × String := (t.nspace.getD globalNamespace, t.name)

def idIn (project : String) (t : TypeDeclaration) : String :=
  moduleId project t.place.1 t.place.2

theorem idIn_eq_iff (project : String) {t t' : TypeDeclaration} (ht : '.' ∉ t.name.toList)
    (ht' : '.' ∉ t'.name.toList) : t.idIn project = t'.idIn project ↔ t.place = t'.place := by
  rw [Prod.ext_iff]
  exact moduleId_inj_of_project ht ht'

end TypeDeclaration

namespace Extraction

variable {registry : Registry} {policy : MergePolicy} {project : String}

def typesIn (registry : Registry) (files : List SourceFile) : List TypeDeclaration :=
  files.flatMap fun file =>
    match registry.reading? file with
    | some (.ok parsed) => parsed.declarations
    | _ => []

theorem map_id_declarations (registry : Registry) (project : String) (files : List SourceFile) :
    (declarations registry project files).map (·.id) =
      (typesIn registry files).map (·.idIn project) := by
  rw [declarations, typesIn, List.map_flatMap, List.map_flatMap]
  apply List.flatMap_congr
  intro file _
  rw [declarationsOf]
  cases registry.reading? file with
  | none => rfl
  | some outcome =>
    cases outcome with
    | error e => rfl
    | ok parsed => exact List.map_map

theorem duplicates_eq {files : List SourceFile} {x : Extraction}
    (hx : extract registry policy project files = .ok x)
    (hnames : ∀ t ∈ typesIn registry files, '.' ∉ t.name.toList) :
    x.duplicates.toList =
      (repeats TypeDeclaration.place (typesIn registry files)).map (·.idIn project) := by
  have hplace : repeats (TypeDeclaration.idIn project) (typesIn registry files) =
      repeats TypeDeclaration.place (typesIn registry files) := by
    apply repeats_congr
    intro t ht t' ht'
    exact t.idIn_eq_iff project (hnames t ht) (hnames t' ht')
  calc x.duplicates.toList
      = (repeats Declaration.id (declarations registry project files)).map (·.id) :=
        (reads_extract hx).duplicates
    _ = repeats id ((declarations registry project files).map (·.id)) := (repeats_map id _ _).symm
    _ = repeats id ((typesIn registry files).map (·.idIn project)) := by rw [map_id_declarations]
    _ = (repeats (TypeDeclaration.idIn project) (typesIn registry files)).map (·.idIn project) :=
        repeats_map id _ _
    _ = _ := by rw [hplace]

theorem size_nodes_eq {files : List SourceFile} {x : Extraction}
    (hx : extract registry policy project files = .ok x)
    (hnames : ∀ t ∈ typesIn registry files, '.' ∉ t.name.toList) :
    x.nodes.size = ((typesIn registry files).map (·.place)).toFinset.card := by
  have hplaces : (typesIn registry files).map (·.idIn project) =
      ((typesIn registry files).map (·.place)).map fun p => moduleId project p.1 p.2 := by
    rw [List.map_map]
    rfl
  have hids := (reads_extract hx).ids_nodes
  rw [map_id_declarations, hplaces, eraseDups_map] at hids
  · have hlength := congrArg List.length hids
    rwa [List.length_map, List.length_map, Array.length_toList, length_eraseDups] at hlength
  · intro p hp q hq hpq
    obtain ⟨t, ht, rfl⟩ := List.mem_map.mp hp
    obtain ⟨t', ht', rfl⟩ := List.mem_map.mp hq
    exact (t.idIn_eq_iff project (hnames t ht) (hnames t' ht')).mp hpq

/-- What an extraction tells of the types that some files declare. -/
structure TellsTypes (registry : Registry) (project : String) (files : List SourceFile)
    (x : Extraction) : Prop where
  mem_duplicates_iff : ∀ id, id ∈ x.duplicates ↔
    ∃ first again : TypeDeclaration, [first, again].Sublist (typesIn registry files) ∧
      first.name = again.name ∧ first.nspace.getD "Global" = again.nspace.getD "Global" ∧
        id = moduleId project (again.nspace.getD "Global") again.name
  size_nodes : x.nodes.size =
    ((typesIn registry files).map fun t => (t.nspace.getD "Global", t.name)).toFinset.card

/-- Types of files that can be extracted are merged only where they share their name and the namespace
they are filed under. -/
theorem types_told_apart (policy : MergePolicy) (project : String) {files : List SourceFile}
    (hfiles : ∀ file ∈ files, ∀ e, ¬ registry.Stops file e)
    (hnames : ∀ t ∈ typesIn registry files, '.' ∉ t.name.toList) :
    ∃ x, extract registry policy project files = .ok x ∧ TellsTypes registry project files x := by
  obtain ⟨x, hx⟩ : ∃ x, extract registry policy project files = .ok x :=
    (exists_extract_iff_not_stops files).mpr hfiles
  refine ⟨x, hx, ?_, size_nodes_eq hx hnames⟩
  intro id
  rw [← Array.mem_toList_iff, duplicates_eq hx hnames, List.mem_map]
  constructor
  · rintro ⟨again, hagain, rfl⟩
    obtain ⟨first, hsub, hplace⟩ := (mem_repeats_iff _ _ again).mp hagain
    obtain ⟨hnspace, hname⟩ := Prod.ext_iff.mp hplace
    exact ⟨first, again, hsub, hname, hnspace, rfl⟩
  · rintro ⟨first, again, hsub, hname, hnspace, rfl⟩
    exact ⟨again, (mem_repeats_iff _ _ again).mpr ⟨first, hsub, Prod.ext hnspace hname⟩, rfl⟩

/-- A type is declared in two parts, and its name also elsewhere: in a longer namespace, and in none. -/
theorem types_told_apart_split_type :
    let files : List SourceFile :=
      [⟨"a.cs", "namespace A.B { class X {} }\nnamespace A { struct B {} class X {} }"⟩,
        ⟨"b.cs", "class X {}\nnamespace A.B { class X {} }"⟩]
    (∀ file ∈ files, ∀ e, ¬ Registry.Stops .standard file e) ∧
      (∀ t ∈ typesIn .standard files, '.' ∉ t.name.toList) ∧
      ∃ x, extract .standard .keepFirst "p" files = .ok x ∧ TellsTypes .standard "p" files x := by
  intro files
  have hfiles : ∀ file ∈ files, ∀ e, ¬ Registry.Stops .standard file e :=
    fun file _ e => Registry.not_stops_standard file e
  have hnames : ∀ t ∈ typesIn .standard files, '.' ∉ t.name.toList := by
    have htypes : typesIn .standard files =
        [⟨.cls, some "A.B", "X"⟩, ⟨.struct, some "A", "B"⟩, ⟨.cls, some "A", "X"⟩,
          ⟨.cls, none, "X"⟩, ⟨.cls, some "A.B", "X"⟩] := by
      decide +kernel
    rw [htypes]
    decide
  exact ⟨hfiles, hnames, types_told_apart .keepFirst "p" hfiles hnames⟩

/-- A type outside every namespace is merged into the one of its name in the namespace `Global`. -/
theorem global_types_merged :
    let files : List SourceFile :=
      [⟨"a.cs", "namespace Global { class X {} }"⟩, ⟨"b.cs", "class X {}"⟩]
    typesIn .standard files = [⟨.cls, some "Global", "X"⟩, ⟨.cls, none, "X"⟩] ∧
      ((typesIn .standard files).map fun t => (t.nspace, t.name)).Nodup ∧
      (extract .standard .overwriteById "p" files).map
          (fun x => (x.nodes.toList, x.duplicates.toList)) =
        .ok ([⟨"p:Global.X", "X", "Global", .cls, "b.cs"⟩], ["p:Global.X"]) := by
  intro files
  have htypes : typesIn .standard files =
      [⟨.cls, some "Global", "X"⟩, ⟨.cls, none, "X"⟩] := by
    decide +kernel
  refine ⟨htypes, ?_, ?_⟩
  · rw [htypes]
    decide
  · obtain ⟨x, hx⟩ : ∃ x, extract .standard .overwriteById "p" files = .ok x :=
      (exists_extract_iff_not_stops files).mpr fun file _ e => Registry.not_stops_standard file e
    have hreads := reads_extract hx
    have hnodes : mergedNodes .overwriteById ((declarations .standard "p" files).map (·.node)) =
        [⟨"p:Global.X", "X", "Global", .cls, "b.cs"⟩] := by
      decide +kernel
    have hrepeats : (repeats Declaration.id (declarations .standard "p" files)).map (·.id) =
        ["p:Global.X"] := by
      decide +kernel
    rw [hx, Except.map, hreads.nodes, hnodes, hreads.duplicates, hrepeats]

end Extraction

end CodeAtlas
