import CodeAtlas.Edge
import CodeAtlas.Error
import CodeAtlas.Store.Detail

/-!
# Graph stores

What every store of the dependency graph offers: merging of nodes, edges and packages one at a time,
and bounded reads. A write that fails leaves the store as it was. Batches and module details are built
from these operations alike for every store.
-/

namespace CodeAtlas

def maxListedNodes : Nat := 1000

def maxListedEdges : Nat := 5000

def maxListedPackages : Nat := 1000

def maxSearchResults : Nat := 50

def detailPackageLimit : Nat := 50

class GraphStore (σ : Type) where
  /-- Makes the store ready for use; a second time changes nothing. -/
  ensureSchema : σ → σ
  upsertNode : ModuleNode → σ → Except Error σ
  /-- Merges an edge if both its ends are stored nodes, and says whether they are. -/
  upsertEdge : Edge → σ → Except Error (Bool × σ)
  upsertPackage : Package → σ → Except Error σ
  getNode : String → σ → Except Error (Option ModuleNode)
  listNodes : Nat → σ → Except Error (List ModuleNode)
  listEdges : Nat → σ → Except Error (List Edge)
  searchNodes : String → Nat → σ → Except Error (List ModuleNode)
  outgoing : String → σ → Except Error (List ModuleNode)
  incoming : String → σ → Except Error (List ModuleNode)
  listPackages : Nat → σ → Except Error (List Package)
  stats : σ → Except Error StoreStats

inductive Upsert where
  | node (node : ModuleNode)
  | edge (edge : Edge)
  | package (package : Package)
  deriving DecidableEq, Repr

namespace GraphStore

variable {σ : Type} [GraphStore σ]

def apply (u : Upsert) (summary : WriteSummary) (s : σ) : Except Error (WriteSummary × σ) :=
  match u with
  | .node node => do
    let s ← upsertNode node s
    .ok ({ summary with nodes := summary.nodes + 1 }, s)
  | .edge edge => do
    let (stored, s) ← upsertEdge edge s
    if stored then .ok ({ summary with edges := summary.edges + 1 }, s)
    else .ok ({ summary with edgesSkipped := summary.edgesSkipped + 1 }, s)
  | .package package => do
    let s ← upsertPackage package s
    .ok ({ summary with packages := summary.packages + 1 }, s)

/-- Applies writes in order. The first failure ends the batch and keeps the writes before it. -/
def applyAll (summary : WriteSummary) (s : σ) : List Upsert → Except Error WriteSummary × σ
  | [] => (.ok summary, s)
  | u :: rest =>
    match apply u summary s with
    | .ok (summary, s) => applyAll summary s rest
    | .error e => (.error e, s)

def batch (nodes : List ModuleNode) (edges : List Edge) (packages : List Package) : List Upsert :=
  nodes.map .node ++ edges.map .edge ++ packages.map .package

def ingest (nodes : List ModuleNode) (edges : List Edge) (packages : List Package) (s : σ) :
    Except Error WriteSummary × σ :=
  applyAll .zero s (batch nodes edges packages)

def distinct (texts : List String) : List String :=
  texts.foldl (fun seen t => if t ∈ seen then seen else seen ++ [t]) []

def assembleDetail (node : ModuleNode) (targets sources : List ModuleNode)
    (packages : List Package) : ModuleDetail :=
  { id := node.id
    name := node.name
    nspace := node.nspace
    kind := node.kind
    filePath := node.filePath
    imports := distinct (targets.map (·.name))
    outgoing := targets.map fun t =>
      { nodeId := t.id, sourceName := node.name, targetName := t.name }
    incoming := sources.map fun t =>
      { nodeId := t.id, sourceName := t.name, targetName := node.name }
    packageRisks := packages }

def moduleDetail (id : String) (s : σ) : Except Error (Option ModuleDetail) := do
  match ← getNode id s with
  | none => .ok none
  | some node =>
    let targets ← outgoing id s
    let sources ← incoming id s
    let packages ← listPackages detailPackageLimit s
    .ok (some (assembleDetail node targets sources packages))

end GraphStore

end CodeAtlas
