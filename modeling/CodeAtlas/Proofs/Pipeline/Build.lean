import CodeAtlas.Pipeline
import CodeAtlas.Proofs.Extraction.Counts
import CodeAtlas.Proofs.Linker.Counts
import CodeAtlas.Source.Lines

/-!
# The edges of a built graph

A module of a built graph has an edge to each of the first modules whose namespace starts with what
a file imports that declares it, and no other edge. Namespaces are those that the modules end up with,
so a later declaration also redirects the imports of earlier files.
-/

namespace CodeAtlas

namespace Pipeline

open Extraction Keyed

/-- What a graph says of the sources that it was built from. -/
structure Links (p : Pipeline) (project : String) (sources : List SourceFile)
    (graph : ProjectGraph) : Prop where
  /-- A declaration and an import of its file stand behind each edge, and make one. Where the first
  declaration of an id is kept, the imports of a later one do not count. -/
  edge_iff : ∀ s t, Edge.importing s t ∈ graph.edges ↔
    ∃ before d after, declarations p.registry project sources = before ++ d :: after ∧
      d.id = s ∧ (p.policy = .keepFirst → ∀ d' ∈ before, d'.id ≠ s) ∧
      ∃ i ∈ d.imports, t ∈ ((NamespaceIndex.scan graph.nodes i).take 20).map (·.id)
  ids_nodup : (graph.nodes.map (·.id)).Nodup
  edges_nodup : graph.edges.Nodup
  source_mem : ∀ e ∈ graph.edges, e.source ∈ graph.nodes.map (·.id)
  target_mem : ∀ e ∈ graph.edges, e.target ∈ graph.nodes.map (·.id)

def graphOf (x : Extraction) (manifests : List SourceFile) : ProjectGraph :=
  { nodes := x.nodes.toList
    edges := (link x.nodes.toList maxTargetsPerImport x.placeholders.toList).1
    packages := Manifest.scan (manifests.map (·.text))
    filesParsed := x.filesParsed
    filesSkipped := x.filesSkipped
    duplicates := x.duplicates.size
    linker := (link x.nodes.toList maxTargetsPerImport x.placeholders.toList).2 }

theorem build_eq_map (p : Pipeline) (project : String) (files : ProjectFiles) :
    p.build project files =
      (extract p.registry p.policy project files.sources).map fun x => graphOf x files.manifests := by
  rw [build]
  cases extract p.registry p.policy project files.sources with
  | error e => rfl
  | ok x => rfl

theorem build_of_extract {p : Pipeline} {project : String} {files : ProjectFiles} {x : Extraction}
    (hx : extract p.registry p.policy project files.sources = .ok x) :
    p.build project files = .ok (graphOf x files.manifests) := by
  rw [build_eq_map, hx]
  rfl

theorem exists_extract_of_build {p : Pipeline} {project : String} {files : ProjectFiles}
    {graph : ProjectGraph} (h : p.build project files = .ok graph) :
    ∃ x, extract p.registry p.policy project files.sources = .ok x ∧
      graph = graphOf x files.manifests := by
  rw [build_eq_map] at h
  cases hx : extract p.registry p.policy project files.sources with
  | error e =>
    rw [hx] at h
    cases h
  | ok x =>
    rw [hx] at h
    cases h
    exact ⟨x, rfl, rfl⟩

theorem build_eq_ok {p : Pipeline} {project : String} {files : ProjectFiles} {graph : ProjectGraph}
    (h : p.build project files = .ok graph) :
    ∃ x, extract p.registry p.policy project files.sources = .ok x ∧
      graph.nodes = x.nodes.toList ∧
      graph.edges = (link x.nodes.toList maxTargetsPerImport x.placeholders.toList).1 := by
  obtain ⟨x, hx, rfl⟩ := exists_extract_of_build h
  exact ⟨x, hx, rfl, rfl⟩

/-- The graph of some files, told by the declarations of the sources alone. -/
def listedGraph (p : Pipeline) (project : String) (files : ProjectFiles) : ProjectGraph :=
  let ds := declarations p.registry project files.sources
  let nodes := mergedNodes p.policy (ds.map (·.node))
  let placeholders := (importing p.policy ds).flatMap (·.placeholders)
  let offered := placeholders.flatMap (expansion nodes 20)
  { nodes
    edges := offered.eraseDups
    packages := Manifest.scan (files.manifests.map (·.text))
    filesParsed := files.sources.countP p.registry.parses
    filesSkipped := files.sources.countP fun file => !p.registry.parses file
    duplicates := (repeats Declaration.id ds).length
    linker :=
      { placeholders := placeholders.length
        resolved := offered.eraseDups.length
        duplicates := offered.length - offered.eraseDups.length
        unresolved := placeholders.countP (isUnresolved nodes)
        truncated := placeholders.countP (isCut nodes 20) } }

theorem build_eq_listedGraph {p : Pipeline} (project : String) {files : ProjectFiles}
    (h : ∀ file ∈ files.sources, p.registry.passes file) :
    p.build project files = .ok (listedGraph p project files) := by
  obtain ⟨x, hx⟩ : ∃ x, extract p.registry p.policy project files.sources = .ok x :=
    (exists_extract_iff files.sources).mpr h
  have hreads := reads_extract hx
  have hcounts := counts_extract hx
  have hduplicates := congrArg List.length hreads.duplicates
  rw [Array.length_toList, List.length_map] at hduplicates
  rw [build_of_extract hx, graphOf, link_edges _ (by decide), link_stats _ (by decide),
    hreads.nodes, hreads.placeholders, hcounts.filesParsed, hcounts.filesSkipped, hduplicates]
  rfl

theorem mem_importing_iff (policy : MergePolicy) (ds : List Declaration) (d : Declaration) :
    d ∈ importing policy ds ↔ ∃ before after, ds = before ++ d :: after ∧
      (policy = .keepFirst → ∀ d' ∈ before, d'.id ≠ d.id) := by
  cases policy with
  | overwriteById =>
    rw [importing, List.mem_iff_append]
    simp
  | keepFirst =>
    rw [importing, mem_keepAll_iff]
    simp

theorem mem_expansion_iff (nodes : List ModuleNode) (cap : Nat) (placeholder : Placeholder)
    (e : Edge) : e ∈ expansion nodes cap placeholder ↔ e.source = placeholder.source ∧
      e.target ∈ ((NamespaceIndex.scan nodes placeholder.imported).take cap).map (·.id) := by
  rw [expansion, List.mem_map, List.mem_map]
  constructor
  · rintro ⟨node, hnode, rfl⟩
    exact ⟨rfl, node, hnode, rfl⟩
  · rintro ⟨hsource, node, hnode, htarget⟩
    refine ⟨node, hnode, ?_⟩
    rw [Edge.importing, ← hsource, htarget]

theorem mem_edges_iff {policy : MergePolicy} {ds : List Declaration} {x : Extraction}
    (hx : Reads policy ds x) (e : Edge) :
    e ∈ (link x.nodes.toList maxTargetsPerImport x.placeholders.toList).1 ↔
      ∃ d ∈ importing policy ds, d.id = e.source ∧ ∃ i ∈ d.imports,
        e.target ∈ ((NamespaceIndex.scan x.nodes.toList i).take 20).map (·.id) := by
  have hcap : maxTargetsPerImport.toNat + 1 < 2 ^ 64 := by decide
  rw [link_edges _ hcap, List.mem_eraseDups, List.mem_flatMap, hx.placeholders]
  simp only [List.mem_flatMap, Declaration.placeholders, List.mem_map, mem_expansion_iff]
  constructor
  · rintro ⟨placeholder, ⟨d, hd, i, hi, rfl⟩, hsource, htarget⟩
    exact ⟨d, hd, hsource.symm, i, hi, htarget⟩
  · rintro ⟨d, hd, hsource, i, hi, htarget⟩
    exact ⟨⟨d.id, i⟩, ⟨d, hd, i, hi, rfl⟩, hsource.symm, htarget⟩

theorem mem_ids_of_mem_edges {p : Pipeline} {project : String} {files : ProjectFiles}
    {graph : ProjectGraph} (h : p.build project files = .ok graph) {e : Edge}
    (he : e ∈ graph.edges) :
    e.source ∈ graph.nodes.map (·.id) ∧ e.target ∈ graph.nodes.map (·.id) := by
  obtain ⟨x, hx, hnodes, hedges⟩ := build_eq_ok h
  have hreads := reads_extract hx
  rw [hedges, mem_edges_iff hreads] at he
  obtain ⟨d, hd, hsource, i, -, htarget⟩ := he
  rw [hnodes]
  constructor
  · obtain ⟨before, after, hsplit, -⟩ := (mem_importing_iff _ _ d).mp hd
    rw [hreads.mem_ids, ← hsource, hsplit]
    simp
  · obtain ⟨node, hnode, hid⟩ := List.mem_map.mp htarget
    rw [← hid]
    exact List.mem_map_of_mem (List.mem_of_mem_filter (List.mem_of_mem_take hnode))

/-- The edges of a built graph are those that its declarations and their imports ask for. -/
theorem build_links {p : Pipeline} {project : String} {files : ProjectFiles} {graph : ProjectGraph}
    (h : p.build project files = .ok graph) : Links p project files.sources graph := by
  obtain ⟨x, hx, hnodes, hedges⟩ := build_eq_ok h
  have hreads := reads_extract hx
  constructor
  case edge_iff =>
    intro s t
    rw [hedges, mem_edges_iff hreads, hnodes]
    constructor
    · rintro ⟨d, hd, rfl, hi⟩
      obtain ⟨before, after, hsplit, hfirst⟩ := (mem_importing_iff _ _ d).mp hd
      exact ⟨before, d, after, hsplit, rfl, hfirst, hi⟩
    · rintro ⟨before, d, after, hsplit, rfl, hfirst, hi⟩
      exact ⟨d, (mem_importing_iff _ _ d).mpr ⟨before, after, hsplit, hfirst⟩, rfl, hi⟩
  case ids_nodup => exact hnodes ▸ hreads.indexed.nodup
  case edges_nodup =>
    rw [hedges, link_edges _ (by decide)]
    exact nodup_eraseDups _
  case source_mem => exact fun e he => (mem_ids_of_mem_edges h he).1
  case target_mem => exact fun e he => (mem_ids_of_mem_edges h he).2

/-- Two files declare one id in different namespaces; the later one moves the module into the
namespace that the earlier file imports. -/
theorem build_links_moved_module :
    let p : Pipeline := ⟨[LineNotation.parser "lines" ["txt"]], .overwriteById⟩
    let files : ProjectFiles :=
      ⟨[⟨"a.txt", "use A.B\nclass A B.C\nenum Z E"⟩, ⟨"b.txt", "struct A.B C"⟩], [], 0⟩
    let graph : ProjectGraph :=
      { nodes := [⟨"p:A.B.C", "C", "A.B", .struct, "b.txt"⟩, ⟨"p:Z.E", "E", "Z", .enum, "a.txt"⟩]
        edges := [.importing "p:A.B.C" "p:A.B.C", .importing "p:Z.E" "p:A.B.C"]
        packages := []
        filesParsed := 2
        filesSkipped := 0
        duplicates := 1
        linker := ⟨2, 2, 0, 0, 0⟩ }
    p.build "p" files = .ok graph ∧ Links p "p" files.sources graph := by
  intro p files graph
  have hlisted : listedGraph p "p" files = graph := by
    decide +kernel
  have h : p.build "p" files = .ok graph := by
    rw [build_eq_listedGraph "p" (by decide +kernel), hlisted]
  exact ⟨h, build_links h⟩

end Pipeline

end CodeAtlas
