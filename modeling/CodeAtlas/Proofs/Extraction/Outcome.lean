import CodeAtlas.Proofs.Extraction.Failure

/-!
# The outcome of an extraction

An extraction fails as the first file that stops it, or else it holds what the declarations of its files
say: a module for each id, the repeats of ids, and a placeholder for each import that counts. Files that
are skipped leave a trace in their count alone.
-/

namespace CodeAtlas

open Keyed

def Registry.skips (registry : Registry) (file : SourceFile) : Bool :=
  match registry.reading? file with
  | none => true
  | some (.error (.parse _)) => true
  | _ => false

theorem Registry.not_parses_eq_skips {registry : Registry} {file : SourceFile}
    (h : registry.passes file) : (!registry.parses file) = registry.skips file := by
  rw [passes] at h
  rw [parses, skips]
  cases hread : registry.reading? file with
  | none => rfl
  | some outcome =>
    rw [hread] at h
    cases outcome with
    | ok parsed => rfl
    | error e =>
      cases e with
      | parse text => rfl
      | _ => exact absurd h Bool.false_ne_true

namespace Extraction

variable {registry : Registry} {policy : MergePolicy} {project : String}

section Skipping

def unskipped (x : Extraction) : Extraction := { x with filesSkipped := 0 }

theorem positions_unskipped (x : Extraction) : x.unskipped.positions = x.positions := rfl

theorem unskipped_skipFile (x : Extraction) : x.skipFile.unskipped = x.unskipped := rfl

theorem unskipped_addNode (x : Extraction) (imports : List String) (node : ModuleNode) :
    (x.addNode policy imports node).unskipped = x.unskipped.addNode policy imports node := by
  rw [Extraction.addNode, Extraction.addNode, positions_unskipped]
  cases x.positions[node.id]? with
  | none => rfl
  | some position => cases policy <;> rfl

theorem unskipped_addNodes (x : Extraction) (imports : List String) (nodes : List ModuleNode) :
    (nodes.foldl (Extraction.addNode policy imports) x).unskipped =
      nodes.foldl (Extraction.addNode policy imports) x.unskipped := by
  induction nodes generalizing x with
  | nil => rfl
  | cons node nodes ih => rw [List.foldl_cons, List.foldl_cons, ih, unskipped_addNode]

theorem map_unskipped_addFile (x : Extraction) {file : SourceFile} (h : ¬ registry.skips file) :
    (x.addFile registry policy project file).map unskipped =
      x.unskipped.addFile registry policy project file := by
  rw [Registry.skips] at h
  rw [addFile_eq, addFile_eq]
  cases hread : registry.reading? file with
  | none =>
    rw [hread] at h
    exact absurd rfl h
  | some outcome =>
    rw [hread] at h
    cases outcome with
    | error e =>
      cases e with
      | parse text => exact absurd rfl h
      | _ => rfl
    | ok parsed => exact congrArg Except.ok (unskipped_addNodes _ _ _)

theorem addFile_of_skips (x : Extraction) {file : SourceFile} (h : registry.skips file) :
    x.addFile registry policy project file = .ok x.skipFile := by
  rw [Registry.skips] at h
  rw [addFile_eq]
  cases hread : registry.reading? file with
  | none => rfl
  | some outcome =>
    rw [hread] at h
    cases outcome with
    | error e =>
      cases e with
      | parse text => rfl
      | _ => exact absurd h Bool.false_ne_true
    | ok parsed => exact absurd h Bool.false_ne_true

theorem map_unskipped_addFiles (x : Extraction) (files : List SourceFile) :
    (files.foldlM (Extraction.addFile registry policy project) x).map unskipped =
      (files.filter fun file => !registry.skips file).foldlM
        (Extraction.addFile registry policy project) x.unskipped := by
  induction files generalizing x with
  | nil => rfl
  | cons file files ih =>
    rw [List.foldlM_cons]
    by_cases hskips : registry.skips file
    · rw [List.filter_cons_of_neg (by simpa using hskips), addFile_of_skips x hskips,
        ← unskipped_skipFile]
      exact ih x.skipFile
    · rw [List.filter_cons_of_pos (by simpa using hskips), List.foldlM_cons,
        ← map_unskipped_addFile x hskips]
      cases x.addFile registry policy project file with
      | error e => rfl
      | ok y => exact ih y

theorem map_unskipped_extract (files : List SourceFile) :
    (extract registry policy project files).map unskipped =
      extract registry policy project (files.filter fun file => !registry.skips file) :=
  map_unskipped_addFiles .empty files

end Skipping

/-- The declaration that an id stands for: the last one of it, or the first if that is kept. -/
def standing (policy : MergePolicy) (ds : List Declaration) (id : String) : Option Declaration :=
  match policy with
  | .overwriteById => last? Declaration.id id ds
  | .keepFirst => lookup? Declaration.id id ds

theorem last?_map_node (ds : List Declaration) (id : String) :
    last? (·.id) id (ds.map (·.node)) = (last? Declaration.id id ds).map (·.node) := by
  rw [last?, List.filter_map, List.getLast?_map]
  rfl

theorem lookup?_map_node (ds : List Declaration) (id : String) :
    lookup? (·.id) id (ds.map (·.node)) = (lookup? Declaration.id id ds).map (·.node) := by
  rw [lookup?, List.find?_map]
  rfl

theorem lookup?_mergedNodes (policy : MergePolicy) (ds : List Declaration) (id : String) :
    lookup? (·.id) id (mergedNodes policy (ds.map (·.node))) =
      (standing policy ds id).map (·.node) := by
  cases policy with
  | overwriteById =>
    rw [mergedNodes, lookup?_mergeAll, last?_map_node, lookup?, List.find?_nil, Option.or_none,
      standing]
  | keepFirst => rw [mergedNodes, keepAll_nil_eq_firsts, lookup?_firsts, lookup?_map_node, standing]

theorem mem_declarations_iff (files : List SourceFile) (d : Declaration) :
    d ∈ declarations registry project files ↔
      ∃ file ∈ files, ∃ parsed, registry.reading? file = some (.ok parsed) ∧
        ∃ t ∈ parsed.declarations, d = ⟨declaredNode project file.path t, parsed.imports⟩ := by
  rw [declarations, List.mem_flatMap]
  refine exists_congr fun file => and_congr_right fun _ => ?_
  rw [declarationsOf]
  cases registry.reading? file with
  | none => simp
  | some outcome =>
    cases outcome with
    | error e => simp
    | ok parsed => simp [declarationsIn, eq_comm]

/-- What an extraction holds of the declarations of some files. -/
structure Holds (registry : Registry) (policy : MergePolicy) (project : String)
    (files : List SourceFile) (x : Extraction) : Prop where
  ids : x.nodes.toList.map (·.id) = ((declarations registry project files).map (·.id)).eraseDups
  node : ∀ node ∈ x.nodes.toList, ∃ d,
    standing policy (declarations registry project files) node.id = some d ∧ d.node = node
  declared : ∀ d ∈ declarations registry project files, ∃ file ∈ files, ∃ parsed,
    registry.reading? file = some (.ok parsed) ∧ d.imports = parsed.imports ∧
      ∃ t ∈ parsed.declarations, d.node =
        { id := moduleId project (t.nspace.getD "Global") t.name, name := t.name
          nspace := t.nspace.getD "Global", kind := t.kind, filePath := file.path }
  duplicates : x.duplicates.toList =
    (repeats Declaration.id (declarations registry project files)).map (·.id)
  /-- Where first declarations are kept, the imports of the others do not count. -/
  placeholders : x.placeholders.toList =
    (match policy with
      | .overwriteById => declarations registry project files
      | .keepFirst => firsts Declaration.id (declarations registry project files)).flatMap
        fun d : Declaration => d.imports.map (Placeholder.mk d.id)
  source_mem : ∀ placeholder ∈ x.placeholders.toList,
    placeholder.source ∈ x.nodes.toList.map (·.id)
  filesParsed : x.filesParsed = files.countP registry.parses
  filesSkipped : x.filesSkipped = files.countP registry.skips

theorem mem_ids_of_mem_placeholders {ds : List Declaration} {x : Extraction} (h : Reads policy ds x)
    {placeholder : Placeholder} (hplaceholder : placeholder ∈ x.placeholders.toList) :
    placeholder.source ∈ x.nodes.toList.map (·.id) := by
  rw [h.placeholders, List.mem_flatMap] at hplaceholder
  obtain ⟨d, hd, hplaceholder⟩ := hplaceholder
  obtain ⟨i, -, rfl⟩ := List.mem_map.mp hplaceholder
  exact (h.mem_ids d.id).mpr (List.mem_map_of_mem (mem_of_mem_importing hd))

theorem holds_extract {files : List SourceFile} {x : Extraction}
    (hx : extract registry policy project files = .ok x) :
    Holds registry policy project files x := by
  have hreads := reads_extract hx
  have hcounts := counts_extract hx
  have hpasses := (exists_extract_iff files).mp ⟨x, hx⟩
  constructor
  case ids => exact hreads.ids_nodes
  case node =>
    intro node hnode
    have hfound := lookup?_of_mem (·.id) hreads.indexed.nodup hnode
    rw [hreads.nodes, lookup?_mergedNodes] at hfound
    exact Option.map_eq_some_iff.mp hfound
  case declared =>
    intro d hd
    obtain ⟨file, hfile, parsed, hread, t, ht, rfl⟩ := (mem_declarations_iff files d).mp hd
    exact ⟨file, hfile, parsed, hread, rfl, t, ht, rfl⟩
  case duplicates => exact hreads.duplicates
  case placeholders =>
    rw [hreads.placeholders]
    cases policy with
    | overwriteById => rfl
    | keepFirst =>
      rw [importing, keepAll_nil_eq_firsts]
      rfl
  case source_mem => exact fun placeholder => mem_ids_of_mem_placeholders hreads
  case filesParsed => exact hcounts.filesParsed
  case filesSkipped =>
    rw [hcounts.filesSkipped]
    apply List.countP_congr
    intro file hfile
    rw [Registry.not_parses_eq_skips (hpasses file hfile)]

structure Outcome (registry : Registry) (policy : MergePolicy) (project : String)
    (files : List SourceFile) (result : Except Error Extraction) : Prop where
  fails_iff : (∃ e, result = .error e) ↔ ∃ file ∈ files, ∃ e, registry.Stops file e
  error : ∀ e, result = .error e → registry.StopsFirst files e
  ok : (∀ file ∈ files, ∀ e, ¬ registry.Stops file e) →
    ∃ x, result = .ok x ∧ Holds registry policy project files x
  /-- Files with the same ones besides those that are skipped make no difference but in that count. -/
  skipping : ∀ files' : List SourceFile,
    (files'.filter fun file => !registry.skips file) =
      (files.filter fun file => !registry.skips file) →
    (extract registry policy project files').map unskipped = result.map unskipped

theorem exists_extract_iff_not_stops (files : List SourceFile) :
    (∃ x, extract registry policy project files = .ok x) ↔
      ∀ file ∈ files, ∀ e, ¬ registry.Stops file e := by
  rw [exists_extract_iff]
  exact forall₂_congr fun file _ => registry.passes_iff file

theorem exists_error_iff (files : List SourceFile) :
    (∃ e, extract registry policy project files = .error e) ↔
      ∃ file ∈ files, ∃ e, registry.Stops file e := by
  have hnot : (∃ e, extract registry policy project files = .error e) ↔
      ¬ ∃ x, extract registry policy project files = .ok x := by
    cases extract registry policy project files <;> simp
  rw [hnot, exists_extract_iff_not_stops]
  simp only [not_forall, not_not, exists_prop]

theorem extract_outcome (registry : Registry) (policy : MergePolicy) (project : String)
    (files : List SourceFile) :
    Outcome registry policy project files (extract registry policy project files) := by
  constructor
  case fails_iff => exact exists_error_iff files
  case error => exact fun e => (extract_eq_error_iff files e).mp
  case ok =>
    intro hfiles
    obtain ⟨x, hx⟩ := (exists_extract_iff_not_stops files).mpr hfiles
    exact ⟨x, hx, holds_extract hx⟩
  case skipping =>
    intro files' hfiles
    rw [map_unskipped_extract, map_unskipped_extract, hfiles]

end Extraction

end CodeAtlas
