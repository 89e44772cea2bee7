import CodeAtlas.Proofs.Extraction.Counts
import CodeAtlas.Proofs.Keyed.Absorb
import CodeAtlas.Proofs.Pipeline.Phases
import CodeAtlas.Proofs.Store.Batch

/-!
# Ingests in parts

Where a later declaration replaces an earlier one, an extraction merges declarations just as a store
merges modules. So a store ends with the same modules and packages whether the files of a project come
in one ingest or in two, or whether every declaration is written on its own.
-/

namespace CodeAtlas

open Keyed

namespace Extraction

variable {registry : Registry} {policy : MergePolicy} {project : String}

theorem declarations_append (first second : List SourceFile) :
    declarations registry project (first ++ second) =
      declarations registry project first ++ declarations registry project second :=
  List.flatMap_append

theorem exists_extract_append_iff (first second : List SourceFile) :
    (∃ x, extract registry policy project (first ++ second) = .ok x) ↔
      (∃ x, extract registry policy project first = .ok x) ∧
        ∃ y, extract registry policy project second = .ok y := by
  rw [exists_extract_iff, exists_extract_iff, exists_extract_iff]
  exact List.forall_mem_append

end Extraction

theorem Manifest.scan_append (first second : List String) :
    scan (first ++ second) = scan first ++ scan second :=
  List.flatMap_append

namespace MemoryStore

open Extraction

/-- One store holds what another does with the declarations and the packages of some files merged into
it. -/
structure Merges (registry : Registry) (project : String) (files : ProjectFiles)
    (s t : MemoryStore) : Prop where
  nodes : t.graph.nodes.toList = mergeAll (·.id) s.graph.nodes.toList
    ((declarations registry project files.sources).map (·.node))
  packages : t.graph.packages.toList = mergeAll (·.name) s.graph.packages.toList
    (Manifest.scan (files.manifests.map (·.text)))

variable {registry : Registry} {project : String} {files first second : ProjectFiles}
  {s t u : MemoryStore}

theorem Merges.trans (hfirst : Merges registry project first s t)
    (hsecond : Merges registry project second t u)
    (hsources : files.sources = first.sources ++ second.sources)
    (hmanifests : files.manifests = first.manifests ++ second.manifests) :
    Merges registry project files s u where
  nodes := by
    rw [hsecond.nodes, hfirst.nodes, hsources, declarations_append, List.map_append, mergeAll_append]
  packages := by
    rw [hsecond.packages, hfirst.packages, hmanifests, List.map_append, Manifest.scan_append,
      mergeAll_append]

theorem Merges.same (ht : Merges registry project files s t) (hu : Merges registry project files s u) :
    t.graph.nodes = u.graph.nodes ∧ t.graph.packages = u.graph.packages :=
  ⟨Array.toList_inj.mp (ht.nodes.trans hu.nodes.symm),
    Array.toList_inj.mp (ht.packages.trans hu.packages.symm)⟩

/-- Writing a graph always succeeds, since the schema is made first. -/
theorem Shows.writeReporting {p : PlainStore} (h : Shows s p) (project : String)
    (graph : ProjectGraph) :
    (Pipeline.writeReporting project graph s).1 = .ok (.ofGraph project graph) ∧
      Shows (Pipeline.writeReporting project graph s).2
        ⟨some ((p.contents.getD .empty).writeAll
          (GraphStore.batch graph.nodes graph.edges graph.packages))⟩ := by
  have hready : Shows (GraphStore.ensureSchema s) ⟨some (p.contents.getD .empty)⟩ := h.ensureSchema
  obtain ⟨hok, hshows⟩ :=
    hready.applyAll (GraphStore.batch graph.nodes graph.edges graph.packages)
  refine ⟨?_, hshows⟩
  rw [Pipeline.writeReporting, Pipeline.write, GraphStore.ingest, hok]
  rfl

theorem Shows.ingest {c : Contents} (h : Shows s ⟨some c⟩) (p : Pipeline) (project : String)
    (files : ProjectFiles) {x : Extraction}
    (hx : extract p.registry p.policy project files.sources = .ok x) :
    (∃ report, (p.ingest project files s).1 = .ok report) ∧
      Shows (p.ingest project files s).2 ⟨some (c.writeAll (GraphStore.batch
        x.nodes.toList (link x.nodes.toList maxTargetsPerImport x.placeholders.toList).1
        (Manifest.scan (files.manifests.map (·.text)))))⟩ := by
  obtain ⟨hok, hshows⟩ := h.writeReporting project (Pipeline.graphOf x files.manifests)
  rw [Pipeline.ingest_eq, Pipeline.build_of_extract hx]
  exact ⟨⟨_, hok⟩, hshows⟩

theorem Shows.merges_ingest {c : Contents} (h : Shows s ⟨some c⟩) {x : Extraction}
    (hx : extract registry .overwriteById project files.sources = .ok x) :
    Merges registry project files s
      ((Pipeline.mk registry .overwriteById).ingest project files s).2 := by
  have hc : s.graph.contents = c := h.graph_contents
  have hwf : c.WellFormed := h.wellFormed_contents
  have hafter := (h.ingest ⟨registry, .overwriteById⟩ project files hx).2.graph_contents
  constructor
  case nodes =>
    have hnodes := congrArg Contents.nodes hafter
    rw [Option.getD_some, Contents.nodes_writeAll, History.nodes_of_batch, (reads_extract hx).nodes,
      mergedNodes, mergeAll_mergeAll_nil _ hwf.ids_nodup, ← hc] at hnodes
    exact hnodes
  case packages =>
    have hpackages := congrArg Contents.packages hafter
    rw [Option.getD_some, Contents.packages_writeAll, History.packages_of_batch, ← hc] at hpackages
    exact hpackages

/-- The declarations of some sources, each written on its own. -/
def declareAll (registry : Registry) (project : String) (sources : List SourceFile)
    (s : MemoryStore) : MemoryStore :=
  Call.after s (((declarations registry project sources).map fun d => .node d.node).map .upsert)

theorem Shows.nodes_declareAll {c : Contents} (h : Shows s ⟨some c⟩) (sources : List SourceFile) :
    (declareAll registry project sources s).graph.nodes.toList =
      mergeAll (·.id) c.nodes ((declarations registry project sources).map (·.node)) := by
  generalize hds : declarations registry project sources = ds
  have hwritten : History.nodes (ds.map fun d => .node d.node) = ds.map (·.node) := by
    simp [History.nodes, List.filterMap_map, Function.comp_def, History.node?]
  have hafter := (shows_after_upserts h (ds.map fun d => .node d.node)).graph_contents
  have hnodes := congrArg Contents.nodes hafter
  rw [Option.getD_some, Contents.nodes_writeAll, hwritten] at hnodes
  rw [declareAll, hds]
  exact hnodes

/-- The modules and the packages of a store do not depend on whether files are ingested together or in
two parts, and its modules are those of the declarations written one by one. An extraction itself holds
what they leave of an empty store. -/
theorem ingest_parts (calls : List Call) (hready : (Call.after fresh calls).schemaReady = true)
    (hsources : files.sources = first.sources ++ second.sources)
    (hmanifests : files.manifests = first.manifests ++ second.manifests) {x y : Extraction}
    (hfirst : extract registry .overwriteById project first.sources = .ok x)
    (hsecond : extract registry .overwriteById project second.sources = .ok y) :
    let s := Call.after fresh calls
    let p : Pipeline := ⟨registry, .overwriteById⟩
    let part := p.ingest project first s
    let parts := p.ingest project second part.2
    let whole := p.ingest project files s
    (∃ report, part.1 = .ok report) ∧ (∃ report, parts.1 = .ok report) ∧
      (∃ report, whole.1 = .ok report) ∧
      parts.2.graph.nodes = whole.2.graph.nodes ∧
      parts.2.graph.packages = whole.2.graph.packages ∧
      whole.2.graph.nodes = (declareAll registry project files.sources s).graph.nodes ∧
      ∃ z, extract registry .overwriteById project files.sources = .ok z ∧
        z.nodes = (declareAll registry project files.sources ready).graph.nodes := by
  intro s p part parts whole
  obtain ⟨z, hz⟩ : ∃ z, extract registry .overwriteById project files.sources = .ok z := by
    rw [hsources, exists_extract_append_iff]
    exact ⟨⟨x, hfirst⟩, y, hsecond⟩
  have hs := shows_after calls hready
  obtain ⟨hpart, hparted⟩ := hs.ingest p project first hfirst
  have hparts := (hparted.ingest p project second hsecond).1
  have hwhole := (hs.ingest p project files hz).1
  have hmerged := hs.merges_ingest hz
  obtain ⟨hnodes, hpackages⟩ :=
    ((hs.merges_ingest hfirst).trans (hparted.merges_ingest hsecond) hsources hmanifests).same hmerged
  refine ⟨hpart, hparts, hwhole, hnodes, hpackages, ?_, z, hz, ?_⟩
  · rw [← Array.toList_inj, hs.nodes_declareAll]
    exact hmerged.nodes
  · rw [← Array.toList_inj, Shows.ready.nodes_declareAll]
    exact (reads_extract hz).nodes

/-- A module and a package are in both parts and in the store before, and one module is declared twice in
the second part. -/
theorem ingest_parts_shared_module :
    let registry : Registry := [LineNotation.parser "lines" ["txt"]]
    let first : ProjectFiles :=
      ⟨[⟨"a.txt", "use N\nclass N X"⟩],
        [⟨"a.csproj", "<PackageReference Include=\"J\" Version=\"1\"/>"⟩], 0⟩
    let second : ProjectFiles :=
      ⟨[⟨"b.txt", "enum N Y\nstruct N X\nclass N Y"⟩, ⟨"c.txt", "fail"⟩],
        [⟨"b.csproj", "<PackageReference Include=\"J\" Version=\"2\"/>"⟩], 1⟩
    let files : ProjectFiles :=
      ⟨first.sources ++ second.sources, first.manifests ++ second.manifests, 1⟩
    let calls : List Call :=
      [.ensureSchema, .upsert (.node ⟨"p:M.Z", "Z", "M", .other, "z.txt"⟩),
        .upsert (.node ⟨"p:N.X", "X", "N", .other, "z.txt"⟩), .upsert (.package (.plain "J" "0"))]
    let s := Call.after fresh calls
    let p : Pipeline := ⟨registry, .overwriteById⟩
    let part := p.ingest "p" first s
    let parts := p.ingest "p" second part.2
    let whole := p.ingest "p" files s
    s.schemaReady = true ∧
      (∃ x, extract registry .overwriteById "p" first.sources = .ok x) ∧
      (∃ y, extract registry .overwriteById "p" second.sources = .ok y) ∧
      (∃ report, part.1 = .ok report) ∧ (∃ report, parts.1 = .ok report) ∧
      (∃ report, whole.1 = .ok report) ∧
      parts.2.graph.nodes = whole.2.graph.nodes ∧
      parts.2.graph.packages = whole.2.graph.packages ∧
      whole.2.graph.nodes = (declareAll registry "p" files.sources s).graph.nodes ∧
      ∃ z, extract registry .overwriteById "p" files.sources = .ok z ∧
        z.nodes = (declareAll registry "p" files.sources ready).graph.nodes := by
  intro registry first second files calls s p part parts whole
  have hready : s.schemaReady = true := rfl
  have hfirst : ∃ x, extract registry .overwriteById "p" first.sources = .ok x := by
    rw [exists_extract_iff]
    decide +kernel
  have hsecond : ∃ y, extract registry .overwriteById "p" second.sources = .ok y := by
    rw [exists_extract_iff]
    decide +kernel
  obtain ⟨x, hx⟩ := hfirst
  obtain ⟨y, hy⟩ := hsecond
  exact ⟨hready, ⟨x, hx⟩, ⟨y, hy⟩, ingest_parts calls hready rfl rfl hx hy⟩

end MemoryStore

end CodeAtlas
