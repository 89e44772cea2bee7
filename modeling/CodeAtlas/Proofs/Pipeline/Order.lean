import CodeAtlas.Proofs.Extraction.Counts
import CodeAtlas.Proofs.Linker.Counts
import CodeAtlas.Proofs.Pipeline.Build

/-!
# Files in another order

The order of the files is the order of the modules, of the placeholders and of the edges, and it decides
which of two modules with one id is kept and which targets of an import are cut. Where nothing is a
repeat and nothing is cut, the order decides nothing else.
-/

namespace CodeAtlas

open Keyed

namespace Extraction

variable {registry : Registry} {policy : MergePolicy} {project : String}
  {files files' : List SourceFile}

theorem declarations_perm (registry : Registry) (project : String) (hperm : files.Perm files') :
    (declarations registry project files).Perm (declarations registry project files') :=
  hperm.flatMap_right _

theorem exists_extract_of_perm {x : Extraction} (hperm : files.Perm files')
    (hx : extract registry policy project files = .ok x) :
    ∃ y, extract registry policy project files' = .ok y := by
  rw [exists_extract_iff]
  intro file hfile
  exact (exists_extract_iff files).mp ⟨x, hx⟩ file (hperm.mem_iff.mpr hfile)

structure Reorders (x y : Extraction) : Prop where
  nodes : x.nodes.toList.Perm y.nodes.toList
  placeholders : x.placeholders.toList.Perm y.placeholders.toList
  filesParsed : x.filesParsed = y.filesParsed
  filesSkipped : x.filesSkipped = y.filesSkipped
  duplicates : x.duplicates.size = y.duplicates.size

theorem reorders_extract {x y : Extraction} (hperm : files.Perm files')
    (hx : extract registry policy project files = .ok x)
    (hy : extract registry policy project files' = .ok y) (hdup : x.duplicates.size = 0) :
    Reorders x y := by
  have hds := declarations_perm registry project hperm
  have hnd := (duplicates_eq_zero_iff hx).mp hdup
  have hnd' := (hds.map _).nodup_iff.mp hnd
  obtain ⟨hnodes, hplaceholders⟩ := (reads_extract hx).of_nodup hnd
  obtain ⟨hnodes', hplaceholders'⟩ := (reads_extract hy).of_nodup hnd'
  constructor
  case nodes =>
    rw [hnodes, hnodes']
    exact hds.map _
  case placeholders =>
    rw [hplaceholders, hplaceholders']
    exact hds.flatMap_right _
  case filesParsed =>
    rw [(counts_extract hx).filesParsed, (counts_extract hy).filesParsed, hperm.countP_eq]
  case filesSkipped =>
    rw [(counts_extract hx).filesSkipped, (counts_extract hy).filesSkipped, hperm.countP_eq]
  case duplicates => rw [hdup, (duplicates_eq_zero_iff hy).mpr hnd']

end Extraction

/-- Two graphs with the same modules and edges in another order, and the same counts. -/
structure ProjectGraph.Reorders (graph graph' : ProjectGraph) : Prop where
  nodes : graph.nodes.Perm graph'.nodes
  edges : graph.edges.Perm graph'.edges
  filesParsed : graph.filesParsed = graph'.filesParsed
  filesSkipped : graph.filesSkipped = graph'.filesSkipped
  duplicates : graph.duplicates = graph'.duplicates
  linker : graph.linker = graph'.linker

namespace Pipeline

/-- Sources in another order are built into the same graph in another order, if no declaration repeats
the id of another and no import has more targets than the cap. -/
theorem build_reorders {p : Pipeline} {project : String} {files files' : ProjectFiles}
    {graph : ProjectGraph} (h : p.build project files = .ok graph) (hdup : graph.duplicates = 0)
    (hcut : graph.linker.truncated = 0) (hperm : files.sources.Perm files'.sources) :
    ∃ graph', p.build project files' = .ok graph' ∧ graph.Reorders graph' := by
  obtain ⟨x, hx, rfl⟩ := exists_extract_of_build h
  obtain ⟨y, hy⟩ := Extraction.exists_extract_of_perm hperm hx
  have hxy := Extraction.reorders_extract hperm hx hy hdup
  obtain ⟨hedges, hlinker⟩ := link_perm hxy.nodes hxy.placeholders (by decide) hcut
  refine ⟨graphOf y files'.manifests, build_of_extract hy, ?_⟩
  exact ⟨hxy.nodes, hedges, hxy.filesParsed, hxy.filesSkipped, hxy.duplicates, hlinker⟩

/-- One file has no parser and one is refused; an import finds nothing, and two find the same module. The
files come in the reverse order. -/
theorem build_reorders_reverse :
    let p : Pipeline := ⟨[LineNotation.parser "lines" ["txt"]], .keepFirst⟩
    let files : ProjectFiles :=
      ⟨[⟨"a.txt", "use N\nuse N.M\nuse Z\nclass N X"⟩, ⟨"b.txt", "use N\nstruct N.M Y\nenum - E"⟩,
        ⟨"c.md", "class N X"⟩, ⟨"d.txt", "fail"⟩], [], 0⟩
    let files' : ProjectFiles := ⟨files.sources.reverse, [], 0⟩
    let graph : ProjectGraph :=
      { nodes := [⟨"p:N.X", "X", "N", .cls, "a.txt"⟩, ⟨"p:N.M.Y", "Y", "N.M", .struct, "b.txt"⟩,
          ⟨"p:Global.E", "E", "Global", .enum, "b.txt"⟩]
        edges := [.importing "p:N.X" "p:N.X", .importing "p:N.X" "p:N.M.Y",
          .importing "p:N.M.Y" "p:N.X", .importing "p:N.M.Y" "p:N.M.Y",
          .importing "p:Global.E" "p:N.X", .importing "p:Global.E" "p:N.M.Y"]
        packages := []
        filesParsed := 2
        filesSkipped := 2
        duplicates := 0
        linker := ⟨5, 6, 1, 1, 0⟩ }
    p.build "p" files = .ok graph ∧ files.sources.Perm files'.sources ∧
      ∃ graph', p.build "p" files' = .ok graph' ∧ graph.Reorders graph' := by
  intro p files files' graph
  have hlisted : listedGraph p "p" files = graph := by
    decide +kernel
  have h : p.build "p" files = .ok graph := by
    rw [build_eq_listedGraph "p" (by decide +kernel), hlisted]
  have hperm : files.sources.Perm files'.sources := (List.reverse_perm files.sources).symm
  exact ⟨h, hperm, build_reorders h rfl rfl hperm⟩

end Pipeline

end CodeAtlas
