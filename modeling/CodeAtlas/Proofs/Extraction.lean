import CodeAtlas.Extract
import CodeAtlas.Proofs.Except
import CodeAtlas.Proofs.Keyed.Index
import CodeAtlas.Proofs.Keyed.Repeats
import CodeAtlas.Proofs.Source.Reading

/-!
# What an extraction reads

The declarations of the parsed files, each with the imports of its file, determine the modules and
the placeholders of an extraction. A step adds one declaration; a run adds those of all files.
-/

namespace CodeAtlas

namespace Extraction

open Keyed

structure Declaration where
  node : ModuleNode
  imports : List String
  deriving DecidableEq, Repr

namespace Declaration

def id (d : Declaration) : String := d.node.id

def placeholders (d : Declaration) : List Placeholder := d.imports.map (Placeholder.mk d.id)

end Declaration

def declarationsIn (project path : String) (parsed : ParsedSource) : List Declaration :=
  parsed.declarations.map fun d => ⟨declaredNode project path d, parsed.imports⟩

def declarationsOf (registry : Registry) (project : String) (file : SourceFile) :
    List Declaration :=
  match registry.reading? file with
  | some (.ok parsed) => declarationsIn project file.path parsed
  | _ => []

def declarations (registry : Registry) (project : String) (files : List SourceFile) :
    List Declaration :=
  files.flatMap (declarationsOf registry project)

/-- The modules that a policy leaves of a sequence of declared ones. -/
def mergedNodes : MergePolicy → List ModuleNode → List ModuleNode
  | .overwriteById, nodes => mergeAll (·.id) [] nodes
  | .keepFirst, nodes => keepAll (·.id) [] nodes

/-- The declarations whose imports count. -/
def importing : MergePolicy → List Declaration → List Declaration
  | .overwriteById, ds => ds
  | .keepFirst, ds => keepAll Declaration.id [] ds

/-- An extraction holds what a sequence of declarations says. -/
structure Reads (policy : MergePolicy) (ds : List Declaration) (x : Extraction) : Prop where
  indexed : Indexed (·.id) x.nodes x.positions
  nodes : x.nodes.toList = mergedNodes policy (ds.map (·.node))
  placeholders : x.placeholders.toList = (importing policy ds).flatMap (·.placeholders)
  duplicates : x.duplicates.toList = (repeats Declaration.id ds).map (·.id)

theorem mergedNodes_concat (policy : MergePolicy) (nodes : List ModuleNode) (node : ModuleNode) :
    mergedNodes policy (nodes ++ [node]) =
      match policy with
      | .overwriteById => merge (·.id) (mergedNodes policy nodes) node
      | .keepFirst => keep (·.id) (mergedNodes policy nodes) node := by
  cases policy with
  | overwriteById => simp [mergedNodes, mergeAll_append]
  | keepFirst => simp [mergedNodes, keepAll_concat]

theorem ids_mergedNodes (policy : MergePolicy) (nodes : List ModuleNode) :
    (mergedNodes policy nodes).map (·.id) = (nodes.map (·.id)).eraseDups := by
  cases policy with
  | overwriteById => exact keys_mergeAll_nil (·.id) nodes
  | keepFirst => exact keys_keepAll (·.id) nodes

theorem importing_concat (policy : MergePolicy) (ds : List Declaration) (d : Declaration) :
    importing policy (ds ++ [d]) =
      if policy = .keepFirst ∧ d.id ∈ ds.map (·.id) then importing policy ds
      else importing policy ds ++ [d] := by
  cases policy with
  | overwriteById => simp [importing]
  | keepFirst =>
    have hd : d.id ∈ (keepAll Declaration.id [] ds).map Declaration.id ↔
        d.id ∈ ds.map Declaration.id := by
      rw [keys_keepAll, List.mem_eraseDups]
    by_cases h : d.id ∈ ds.map Declaration.id
    · rw [importing, importing, keepAll_concat, keep, if_pos (hd.mpr h), if_pos ⟨rfl, h⟩]
    · rw [importing, importing, keepAll_concat, keep, if_neg (mt hd.mp h), if_neg (fun hc => h hc.2)]

theorem mem_of_mem_importing {policy : MergePolicy} {ds : List Declaration} {d : Declaration}
    (h : d ∈ importing policy ds) : d ∈ ds := by
  cases policy with
  | overwriteById => exact h
  | keepFirst =>
    obtain ⟨before, after, rfl, -⟩ := (mem_keepAll_iff Declaration.id ds d).mp h
    simp

@[simp] theorem toList_placeholders_addImports (x : Extraction) (source : String)
    (imports : List String) : (x.addImports source imports).placeholders.toList =
      x.placeholders.toList ++ imports.map (Placeholder.mk source) := by
  simp [addImports]

theorem Reads.empty (policy : MergePolicy) : Reads policy [] .empty where
  indexed := .empty _
  nodes := by cases policy <;> rfl
  placeholders := by cases policy <;> rfl
  duplicates := rfl

theorem Reads.ids_nodes {policy : MergePolicy} {ds : List Declaration} {x : Extraction}
    (h : Reads policy ds x) : x.nodes.toList.map (·.id) = (ds.map (·.id)).eraseDups := by
  rw [h.nodes, ids_mergedNodes, List.map_map]
  rfl

theorem Reads.mem_ids {policy : MergePolicy} {ds : List Declaration} {x : Extraction}
    (h : Reads policy ds x) (id : String) :
    id ∈ x.nodes.toList.map (·.id) ↔ id ∈ ds.map (·.id) := by
  rw [h.ids_nodes, List.mem_eraseDups]

theorem Reads.addNode {policy : MergePolicy} {ds : List Declaration} {x : Extraction}
    (h : Reads policy ds x) (d : Declaration) :
    Reads policy (ds ++ [d]) (x.addNode policy d.imports d.node) := by
  cases hp : x.positions[d.node.id]? with
  | none =>
    have hout : d.node.id ∉ x.nodes.toList.map (·.id) := h.indexed.not_mem_keys_of_none hp
    have hnew : d.id ∉ ds.map (·.id) := mt (h.mem_ids d.id).mpr hout
    have hrepeats : repeats Declaration.id (ds ++ [d]) = repeats Declaration.id ds := by
      rw [repeats_concat, if_neg hnew]
    rw [Extraction.addNode, hp]
    refine ⟨h.indexed.push hp, ?_, ?_, hrepeats ▸ h.duplicates⟩
    · change (x.nodes.push d.node).toList = _
      rw [h.indexed.toList_push hp, List.map_append, List.map_singleton, mergedNodes_concat,
        ← h.nodes]
      cases policy with
      | overwriteById => rfl
      | keepFirst => rw [merge_of_not_mem _ hout, keep, if_neg hout]
    · rw [toList_placeholders_addImports, importing_concat, if_neg (fun hc => hnew hc.2),
        List.flatMap_append, h.placeholders]
      simp [Declaration.placeholders, Declaration.id]
  | some position =>
    have hin : d.node.id ∈ x.nodes.toList.map (·.id) := h.indexed.mem_keys_of_some hp
    have hold : d.id ∈ ds.map (·.id) := (h.mem_ids d.id).mp hin
    have hduplicates : (x.duplicates.push d.node.id).toList =
        (repeats Declaration.id (ds ++ [d])).map (·.id) := by
      rw [Array.toList_push, h.duplicates, repeats_concat, if_pos hold, List.map_append]
      rfl
    rw [Extraction.addNode, hp]
    cases policy with
    | overwriteById =>
      refine ⟨h.indexed.set hp, ?_, ?_, hduplicates⟩
      · change (x.nodes.setIfInBounds position d.node).toList = _
        rw [h.indexed.toList_set hp, List.map_append, List.map_singleton, mergedNodes_concat,
          ← h.nodes]
      · rw [toList_placeholders_addImports, importing_concat, if_neg (by simp),
          List.flatMap_append]
        change x.placeholders.toList ++ _ = _
        rw [h.placeholders]
        simp [Declaration.placeholders, Declaration.id]
    | keepFirst =>
      refine ⟨h.indexed, ?_, ?_, hduplicates⟩
      · change x.nodes.toList = _
        rw [List.map_append, List.map_singleton, mergedNodes_concat, ← h.nodes]
        simp only [keep, if_pos hin]
      · change x.placeholders.toList = _
        rw [importing_concat, if_pos ⟨rfl, hold⟩, h.placeholders]

theorem Reads.addNodes {policy : MergePolicy} {ds : List Declaration} {x : Extraction}
    (h : Reads policy ds x) (imports : List String) (nodes : List ModuleNode) :
    Reads policy (ds ++ nodes.map (⟨·, imports⟩))
      (nodes.foldl (Extraction.addNode policy imports) x) := by
  induction nodes generalizing ds x with
  | nil => simpa using h
  | cons node nodes ih =>
    have hrun := ih (h.addNode ⟨node, imports⟩)
    simpa using hrun

theorem Reads.addParsed {policy : MergePolicy} {ds : List Declaration} {x : Extraction}
    (h : Reads policy ds x) (project path : String) (parsed : ParsedSource) :
    Reads policy (ds ++ declarationsIn project path parsed)
      (x.addParsed policy project path parsed) := by
  have hcount : Reads policy ds { x with filesParsed := x.filesParsed + 1 } :=
    ⟨h.indexed, h.nodes, h.placeholders, h.duplicates⟩
  have hrun := hcount.addNodes parsed.imports
    (parsed.declarations.map (declaredNode project path))
  rwa [List.map_map] at hrun

theorem Reads.skipFile {policy : MergePolicy} {ds : List Declaration} {x : Extraction}
    (h : Reads policy ds x) : Reads policy (ds ++ []) x.skipFile := by
  rw [List.append_nil]
  exact ⟨h.indexed, h.nodes, h.placeholders, h.duplicates⟩

theorem addFile_eq (registry : Registry) (policy : MergePolicy) (project : String) (x : Extraction)
    (file : SourceFile) : x.addFile registry policy project file =
      match registry.reading? file with
      | some (.ok parsed) => .ok (x.addParsed policy project file.path parsed)
      | some (.error (.parse _)) => .ok x.skipFile
      | some (.error e) => .error e
      | none => .ok x.skipFile := by
  rw [Extraction.addFile, registry.parse_eq]
  cases registry.reading? file with
  | none => rfl
  | some outcome =>
    cases outcome with
    | ok parsed => rfl
    | error e => cases e <;> rfl

/-- What a step makes of a file: its declarations are added, or the file is skipped. -/
inductive Taken (registry : Registry) (policy : MergePolicy) (project : String) (file : SourceFile)
    (x : Extraction) : Extraction → Prop where
  | parsed {source : ParsedSource} (read : registry.reading? file = some (.ok source)) :
      Taken registry policy project file x (x.addParsed policy project file.path source)
  | skipped (unread : ∀ source, registry.reading? file ≠ some (.ok source)) :
      Taken registry policy project file x x.skipFile

theorem taken_of_addFile {registry : Registry} {policy : MergePolicy} {project : String}
    {x y : Extraction} {file : SourceFile}
    (hy : x.addFile registry policy project file = .ok y) :
    Taken registry policy project file x y := by
  rw [addFile_eq] at hy
  cases hread : registry.reading? file with
  | none =>
    have hunread : ∀ source, registry.reading? file ≠ some (.ok source) := by simp [hread]
    rw [hread] at hy
    exact Except.ok.inj hy ▸ Taken.skipped hunread
  | some outcome =>
    rw [hread] at hy
    cases outcome with
    | error e =>
      have hunread : ∀ source, registry.reading? file ≠ some (.ok source) := by simp [hread]
      cases e <;> simp only [reduceCtorEq, Except.ok.injEq] at hy
      exact hy ▸ Taken.skipped hunread
    | ok source => exact Except.ok.inj hy ▸ Taken.parsed hread

theorem declarationsOf_of_read {registry : Registry} {file : SourceFile} {source : ParsedSource}
    (h : registry.reading? file = some (.ok source)) (project : String) :
    declarationsOf registry project file = declarationsIn project file.path source := by
  rw [declarationsOf, h]

theorem declarationsOf_of_unread {registry : Registry} {file : SourceFile}
    (h : ∀ source, registry.reading? file ≠ some (.ok source)) (project : String) :
    declarationsOf registry project file = [] := by
  rw [declarationsOf]
  split
  · next source hread => exact absurd hread (h source)
  · rfl

theorem Reads.addFile {registry : Registry} {policy : MergePolicy} {project : String}
    {ds : List Declaration} {x y : Extraction} {file : SourceFile} (h : Reads policy ds x)
    (hy : x.addFile registry policy project file = .ok y) :
    Reads policy (ds ++ declarationsOf registry project file) y := by
  cases taken_of_addFile hy with
  | parsed read =>
    rw [declarationsOf_of_read read]
    exact h.addParsed project file.path _
  | skipped unread =>
    rw [declarationsOf_of_unread unread]
    exact h.skipFile

theorem Reads.addFiles {registry : Registry} {policy : MergePolicy} {project : String}
    {ds : List Declaration} {x y : Extraction} {files : List SourceFile} (h : Reads policy ds x)
    (hy : files.foldlM (Extraction.addFile registry policy project) x = .ok y) :
    Reads policy (ds ++ declarations registry project files) y := by
  induction files generalizing ds x with
  | nil =>
    cases hy
    simpa [declarations] using h
  | cons file files ih =>
    rw [List.foldlM_cons] at hy
    obtain ⟨z, hstep, hrest⟩ := (bind_eq_ok_iff _ _ _).mp hy
    have hrun := ih (h.addFile hstep) hrest
    simpa [declarations] using hrun

theorem reads_extract {registry : Registry} {policy : MergePolicy} {project : String}
    {files : List SourceFile} {x : Extraction} (hx : extract registry policy project files = .ok x) :
    Reads policy (declarations registry project files) x := by
  simpa using (Reads.empty policy).addFiles hx

end Extraction

end CodeAtlas
