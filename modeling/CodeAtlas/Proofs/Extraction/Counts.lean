import CodeAtlas.Proofs.Extraction
import CodeAtlas.Proofs.Keyed.Absorb

/-!
# What an extraction counts

An extraction succeeds just if no file fails in another way than by its text, whatever the files before
it. Then every file is counted once, as parsed or as skipped, and every declaration once, as a module
or as a repeat of one.
-/

namespace CodeAtlas

open Keyed

/-- Whether a file ends no extraction: it is parsed or skipped. -/
def Registry.passes (registry : Registry) (file : SourceFile) : Bool :=
  match registry.reading? file with
  | some (.error (.parse _)) => true
  | some (.error _) => false
  | _ => true

def Registry.parses (registry : Registry) (file : SourceFile) : Bool :=
  match registry.reading? file with
  | some (.ok _) => true
  | _ => false

namespace Extraction

variable {registry : Registry} {policy : MergePolicy} {project : String}

theorem exists_addFile_iff (x : Extraction) (file : SourceFile) :
    (∃ y, x.addFile registry policy project file = .ok y) ↔ registry.passes file := by
  rw [addFile_eq, Registry.passes]
  cases registry.reading? file with
  | none => simp
  | some outcome =>
    cases outcome with
    | ok parsed => simp
    | error e => cases e <;> simp

theorem exists_addFiles_iff (x : Extraction) (files : List SourceFile) :
    (∃ y, files.foldlM (Extraction.addFile registry policy project) x = .ok y) ↔
      ∀ file ∈ files, registry.passes file := by
  induction files generalizing x with
  | nil => exact ⟨fun _ _ hf => absurd hf List.not_mem_nil, fun _ => ⟨x, rfl⟩⟩
  | cons file files ih =>
    rw [List.foldlM_cons, List.forall_mem_cons, ← exists_addFile_iff x file]
    cases hstep : x.addFile registry policy project file with
    | error e =>
      constructor
      · rintro ⟨y, hy⟩
        cases hy
      · rintro ⟨⟨y, hy⟩, -⟩
        cases hy
    | ok z => exact (ih z).trans (and_iff_right ⟨z, rfl⟩).symm

theorem exists_extract_iff (files : List SourceFile) :
    (∃ x, extract registry policy project files = .ok x) ↔ ∀ file ∈ files, registry.passes file :=
  exists_addFiles_iff .empty files

/-- The counts of an extraction, where a declaration is counted as a module or as a repeat. -/
structure Counts (parsed skipped declared : Nat) (x : Extraction) : Prop where
  filesParsed : x.filesParsed = parsed
  filesSkipped : x.filesSkipped = skipped
  declared : x.nodes.size + x.duplicates.size = declared

namespace Counts

variable {parsed skipped declared : Nat} {x y : Extraction}

theorem empty : Counts 0 0 0 .empty := ⟨rfl, rfl, rfl⟩

theorem addNode (h : Counts parsed skipped declared x) (policy : MergePolicy)
    (imports : List String) (node : ModuleNode) :
    Counts parsed skipped (declared + 1) (x.addNode policy imports node) := by
  have hdeclared := h.declared
  rw [Extraction.addNode]
  cases x.positions[node.id]? with
  | none =>
    refine ⟨h.filesParsed, h.filesSkipped, ?_⟩
    change (x.nodes.push node).size + x.duplicates.size = _
    rw [Array.size_push]
    omega
  | some position =>
    cases policy with
    | overwriteById =>
      refine ⟨h.filesParsed, h.filesSkipped, ?_⟩
      change (x.nodes.setIfInBounds position node).size + (x.duplicates.push node.id).size = _
      rw [Array.size_setIfInBounds, Array.size_push]
      omega
    | keepFirst =>
      refine ⟨h.filesParsed, h.filesSkipped, ?_⟩
      change x.nodes.size + (x.duplicates.push node.id).size = _
      rw [Array.size_push]
      omega

theorem addNodes (h : Counts parsed skipped declared x) (policy : MergePolicy)
    (imports : List String) (nodes : List ModuleNode) :
    Counts parsed skipped (declared + nodes.length)
      (nodes.foldl (Extraction.addNode policy imports) x) := by
  induction nodes generalizing declared x with
  | nil => exact h
  | cons node nodes ih =>
    have hrun := ih (h.addNode policy imports node)
    rwa [Nat.add_right_comm, Nat.add_assoc] at hrun

theorem addParsed (h : Counts parsed skipped declared x) (policy : MergePolicy)
    (project path : String) (source : ParsedSource) :
    Counts (parsed + 1) skipped (declared + (declarationsIn project path source).length)
      (x.addParsed policy project path source) := by
  have hcount : Counts (parsed + 1) skipped declared { x with filesParsed := x.filesParsed + 1 } :=
    ⟨congrArg (· + 1) h.filesParsed, h.filesSkipped, h.declared⟩
  have hrun := hcount.addNodes policy source.imports
    (source.declarations.map (declaredNode project path))
  rw [declarationsIn, List.length_map]
  rwa [List.length_map] at hrun

theorem skipFile (h : Counts parsed skipped declared x) :
    Counts parsed (skipped + 1) declared x.skipFile :=
  ⟨h.filesParsed, congrArg (· + 1) h.filesSkipped, h.declared⟩

theorem addFile (h : Counts parsed skipped declared x) {file : SourceFile}
    (hy : x.addFile registry policy project file = .ok y) :
    Counts (parsed + [file].countP registry.parses)
      (skipped + [file].countP fun file => !registry.parses file)
      (declared + (declarationsOf registry project file).length) y := by
  rw [List.countP_singleton, List.countP_singleton]
  cases taken_of_addFile hy with
  | parsed read =>
    rw [declarationsOf_of_read read, Registry.parses, read]
    exact h.addParsed policy project file.path _
  | skipped unread =>
    have hparses : registry.parses file = false := by
      rw [Registry.parses]
      split
      · next source hread => exact absurd hread (unread source)
      · rfl
    rw [declarationsOf_of_unread unread, hparses]
    exact h.skipFile

theorem addFiles (h : Counts parsed skipped declared x) {files : List SourceFile}
    (hy : files.foldlM (Extraction.addFile registry policy project) x = .ok y) :
    Counts (parsed + files.countP registry.parses)
      (skipped + files.countP fun file => !registry.parses file)
      (declared + (declarations registry project files).length) y := by
  induction files generalizing parsed skipped declared x with
  | nil =>
    cases hy
    exact h
  | cons file files ih =>
    rw [List.foldlM_cons] at hy
    obtain ⟨z, hstep, hrest⟩ := (bind_eq_ok_iff _ _ _).mp hy
    have hrun := ih (h.addFile hstep) hrest
    rw [← List.singleton_append, List.countP_append, List.countP_append, declarations,
      List.flatMap_append, List.length_append, List.flatMap_singleton, ← Nat.add_assoc,
      ← Nat.add_assoc, ← Nat.add_assoc]
    exact hrun

end Counts

theorem counts_extract {files : List SourceFile} {x : Extraction}
    (hx : extract registry policy project files = .ok x) :
    Counts (files.countP registry.parses) (files.countP fun file => !registry.parses file)
      (declarations registry project files).length x := by
  have hrun := Counts.empty.addFiles hx
  rwa [Nat.zero_add, Nat.zero_add, Nat.zero_add] at hrun

theorem duplicates_eq_zero_iff {files : List SourceFile} {x : Extraction}
    (hx : extract registry policy project files = .ok x) :
    x.duplicates.size = 0 ↔ ((declarations registry project files).map (·.id)).Nodup := by
  have hdeclared := (counts_extract hx).declared
  have hnodes := congrArg List.length ((reads_extract hx).ids_nodes)
  rw [List.length_map, Array.length_toList] at hnodes
  rw [← length_eraseDups_eq_iff, ← hnodes, List.length_map]
  omega

theorem Reads.of_nodup {ds : List Declaration} {x : Extraction} (h : Reads policy ds x)
    (hnd : (ds.map (·.id)).Nodup) :
    x.nodes.toList = ds.map (·.node) ∧ x.placeholders.toList = ds.flatMap (·.placeholders) := by
  have hids : ((ds.map (·.node)).map (·.id)).Nodup := by
    rwa [List.map_map]
  constructor
  · rw [h.nodes]
    cases policy with
    | overwriteById => exact mergeAll_nil_of_nodup _ hids
    | keepFirst => exact keepAll_nil_of_nodup _ hids
  · rw [h.placeholders]
    cases policy with
    | overwriteById => rfl
    | keepFirst => rw [importing, keepAll_nil_of_nodup _ hnd]

end Extraction

end CodeAtlas
