import CodeAtlas.Archive.ProjectFiles
import CodeAtlas.Extract
import CodeAtlas.Linker.Import
import CodeAtlas.Store.Graph

/-!
# The ingest pipeline

First the graph of a project is built from its files, with no store at hand: modules are extracted,
imports linked and manifests scanned. Then the graph is written.
-/

namespace CodeAtlas

structure ProjectGraph where
  nodes : List ModuleNode
  edges : List Edge
  packages : List Package
  filesParsed : Nat
  filesSkipped : Nat
  duplicates : Nat
  linker : LinkStats
  deriving DecidableEq, Repr, Inhabited

structure IngestReport where
  project : String
  nodes : Nat
  edges : Nat
  packages : Nat
  deriving DecidableEq, Repr, Inhabited

def IngestReport.ofGraph (project : String) (graph : ProjectGraph) : IngestReport :=
  { project, nodes := graph.nodes.length, edges := graph.edges.length
    packages := graph.packages.length }

structure Pipeline where
  registry : Registry
  policy : MergePolicy

namespace Pipeline

def builtIn (grammar : CSharp.Grammar) : Pipeline :=
  { registry := .builtIn grammar, policy := .overwriteById }

def standard : Pipeline := builtIn CSharp.Outline.grammar

def build (p : Pipeline) (project : String) (files : ProjectFiles) :
    Except Error ProjectGraph := do
  let extraction ← extract p.registry p.policy project files.sources
  let nodes := extraction.nodes.toList
  let (edges, linker) := link nodes maxTargetsPerImport extraction.placeholders.toList
  .ok {
    nodes, edges, linker
    packages := Manifest.scan (files.manifests.map (·.text))
    filesParsed := extraction.filesParsed
    filesSkipped := extraction.filesSkipped
    duplicates := extraction.duplicates.size }

variable {σ : Type} [GraphStore σ]

def write (graph : ProjectGraph) (store : σ) : Except Error WriteSummary × σ :=
  GraphStore.ingest graph.nodes graph.edges graph.packages (GraphStore.ensureSchema store)

def ingest (p : Pipeline) (project : String) (files : ProjectFiles) (store : σ) :
    Except Error IngestReport × σ :=
  match p.build project files with
  | .error e => (.error e, store)
  | .ok graph =>
    match write graph store with
    | (.ok _, store) => (.ok (.ofGraph project graph), store)
    | (.error e, store) => (.error e, store)

def ingestArchive (p : Pipeline) (project : String) (data : Archive.Bytes) (store : σ) :
    Except Error IngestReport × σ :=
  match ProjectFiles.ofZip p.registry data with
  | .error e => (.error e, store)
  | .ok files => p.ingest project files store

end Pipeline

end CodeAtlas
