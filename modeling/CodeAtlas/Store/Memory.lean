import CodeAtlas.Store.Graph
import CodeAtlas.Text.Case
import CodeAtlas.Text.Search
import Std.Data.HashMap
import Std.Data.HashSet

/-!
# The store in memory

Nodes, edges and packages in the order of their first write, with an index from ids and names to
positions, the set of all edges, and for every node the positions of its edges in both directions.
-/

namespace CodeAtlas

structure Graph where
  nodes : Array ModuleNode
  nodeIndex : Std.HashMap String Nat
  edges : Array Edge
  edgeSet : Std.HashSet Edge
  outgoing : Std.HashMap String (Array Nat)
  incoming : Std.HashMap String (Array Nat)
  packages : Array Package
  packageIndex : Std.HashMap String Nat

namespace Graph

def empty : Graph :=
  { nodes := #[], nodeIndex := ∅, edges := #[], edgeSet := ∅, outgoing := ∅, incoming := ∅
    packages := #[], packageIndex := ∅ }

def upsertNode (node : ModuleNode) (g : Graph) : Graph :=
  match g.nodeIndex[node.id]? with
  | some position => { g with nodes := g.nodes.setIfInBounds position node }
  | none =>
    { g with
      nodeIndex := g.nodeIndex.insert node.id g.nodes.size
      nodes := g.nodes.push node }

def addPosition (table : Std.HashMap String (Array Nat)) (key : String) (position : Nat) :
    Std.HashMap String (Array Nat) :=
  table.insert key ((table.getD key #[]).push position)

def insertEdge (edge : Edge) (g : Graph) : Graph :=
  if g.edgeSet.contains edge then g
  else
    let position := g.edges.size
    { g with
      edgeSet := g.edgeSet.insert edge
      edges := g.edges.push edge
      outgoing := addPosition g.outgoing edge.source position
      incoming := addPosition g.incoming edge.target position }

def upsertEdge (edge : Edge) (g : Graph) : Bool × Graph :=
  if g.nodeIndex.contains edge.source && g.nodeIndex.contains edge.target then
    (true, g.insertEdge edge)
  else (false, g)

def upsertPackage (package : Package) (g : Graph) : Graph :=
  match g.packageIndex[package.name]? with
  | some position => { g with packages := g.packages.setIfInBounds position package }
  | none =>
    { g with
      packageIndex := g.packageIndex.insert package.name g.packages.size
      packages := g.packages.push package }

def getNode (id : String) (g : Graph) : Option ModuleNode :=
  g.nodeIndex[id]?.bind fun position => g.nodes[position]?

def edgesAt (table : Std.HashMap String (Array Nat)) (id : String) (g : Graph) : List Edge :=
  (table.getD id #[]).toList.filterMap fun position => g.edges[position]?

def importedOver (table : Std.HashMap String (Array Nat)) (far : Edge → String) (id : String)
    (g : Graph) : List ModuleNode :=
  ((g.edgesAt table id).filter fun edge => edge.kind = .imports).filterMap fun edge =>
    g.getNode (far edge)

def targetsOf (id : String) (g : Graph) : List ModuleNode :=
  g.importedOver g.outgoing (·.target) id

def sourcesOf (id : String) (g : Graph) : List ModuleNode :=
  g.importedOver g.incoming (·.source) id

def matchesQuery (needle : List Char) (node : ModuleNode) : Bool :=
  Text.occursIn needle (Text.lowerChars node.name.toList) ||
    Text.occursIn needle (Text.lowerChars node.nspace.toList)

def search (query : String) (limit : Nat) (g : Graph) : List ModuleNode :=
  let needle := Text.lowerChars query.toList
  (g.nodes.toList.filter (matchesQuery needle)).take (min limit maxSearchResults)

def stats (g : Graph) : StoreStats :=
  { modules := g.nodes.size, edges := g.edges.size, packages := g.packages.size }

end Graph

/-- Until the schema is made ready every other operation fails. -/
structure MemoryStore where
  schemaReady : Bool
  graph : Graph

namespace MemoryStore

def fresh : MemoryStore := { schemaReady := false, graph := .empty }

def ensureSchema (s : MemoryStore) : MemoryStore := { s with schemaReady := true }

def read {α : Type} (f : Graph → α) (s : MemoryStore) : Except Error α :=
  if s.schemaReady then .ok (f s.graph) else .error .schemaMissing

def write (f : Graph → Graph) (s : MemoryStore) : Except Error MemoryStore :=
  if s.schemaReady then .ok { s with graph := f s.graph } else .error .schemaMissing

def upsertEdge (edge : Edge) (s : MemoryStore) : Except Error (Bool × MemoryStore) :=
  if s.schemaReady then
    let (stored, graph) := s.graph.upsertEdge edge
    .ok (stored, { s with graph })
  else .error .schemaMissing

end MemoryStore

instance : GraphStore MemoryStore where
  ensureSchema := MemoryStore.ensureSchema
  upsertNode node := MemoryStore.write (Graph.upsertNode node)
  upsertEdge := MemoryStore.upsertEdge
  upsertPackage package := MemoryStore.write (Graph.upsertPackage package)
  getNode id := MemoryStore.read (Graph.getNode id)
  listNodes limit := MemoryStore.read fun g => g.nodes.toList.take (min limit maxListedNodes)
  listEdges limit := MemoryStore.read fun g => g.edges.toList.take (min limit maxListedEdges)
  searchNodes query limit := MemoryStore.read (Graph.search query limit)
  outgoing id := MemoryStore.read (Graph.targetsOf id)
  incoming id := MemoryStore.read (Graph.sourcesOf id)
  listPackages limit :=
    MemoryStore.read fun g => g.packages.toList.take (min limit maxListedPackages)
  stats := MemoryStore.read Graph.stats

end CodeAtlas
