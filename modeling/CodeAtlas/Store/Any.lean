import CodeAtlas.Store.Memory
import CodeAtlas.Store.Tables

/-!
# A store of either make
-/

namespace CodeAtlas

inductive AnyStore where
  | memory (store : MemoryStore)
  | tables (store : TableStore)

instance : GraphStore AnyStore where
  ensureSchema
    | .memory s => .memory (GraphStore.ensureSchema s)
    | .tables s => .tables (GraphStore.ensureSchema s)
  upsertNode node
    | .memory s => (GraphStore.upsertNode node s).map .memory
    | .tables s => (GraphStore.upsertNode node s).map .tables
  upsertEdge edge
    | .memory s => (GraphStore.upsertEdge edge s).map fun (stored, s) => (stored, .memory s)
    | .tables s => (GraphStore.upsertEdge edge s).map fun (stored, s) => (stored, .tables s)
  upsertPackage package
    | .memory s => (GraphStore.upsertPackage package s).map .memory
    | .tables s => (GraphStore.upsertPackage package s).map .tables
  getNode id
    | .memory s | .tables s => GraphStore.getNode id s
  listNodes limit
    | .memory s | .tables s => GraphStore.listNodes limit s
  listEdges limit
    | .memory s | .tables s => GraphStore.listEdges limit s
  searchNodes query limit
    | .memory s | .tables s => GraphStore.searchNodes query limit s
  outgoing id
    | .memory s | .tables s => GraphStore.outgoing id s
  incoming id
    | .memory s | .tables s => GraphStore.incoming id s
  listPackages limit
    | .memory s | .tables s => GraphStore.listPackages limit s
  stats
    | .memory s | .tables s => GraphStore.stats s

end CodeAtlas
