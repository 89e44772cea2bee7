import CodeAtlas.Proofs.Keyed.Merge
import CodeAtlas.Store.Graph
import CodeAtlas.Text.Search

/-!
# The contents of a store

What a store holds, as three lists in the order of first writes, and what every operation makes of
them. A store that keeps to this view answers from the lists alone, whatever it indexes them by. The
plain store is nothing else.
-/

namespace CodeAtlas

open Keyed

@[ext] structure Contents where
  nodes : List ModuleNode
  edges : List Edge
  packages : List Package

namespace Contents

def empty : Contents := ⟨[], [], []⟩

def ids (c : Contents) : List String := c.nodes.map (·.id)

def names (c : Contents) : List String := c.packages.map (·.name)

def accepts (c : Contents) (e : Edge) : Bool := decide (e.source ∈ c.ids ∧ e.target ∈ c.ids)

def addNode (node : ModuleNode) (c : Contents) : Contents :=
  { c with nodes := merge (·.id) c.nodes node }

def addEdge (edge : Edge) (c : Contents) : Contents :=
  if c.accepts edge then { c with edges := keep id c.edges edge } else c

def addPackage (package : Package) (c : Contents) : Contents :=
  { c with packages := merge (·.name) c.packages package }

def write : Upsert → Contents → Contents
  | .node node => addNode node
  | .edge edge => addEdge edge
  | .package package => addPackage package

def writeAll (c : Contents) (history : List Upsert) : Contents :=
  history.foldl (fun c u => c.write u) c

def getNode (id : String) (c : Contents) : Option ModuleNode := lookup? (·.id) id c.nodes

/-- The nodes at the far ends of the edges whose near end is the given one. -/
def neighbours (near far : Edge → String) (id : String) (c : Contents) : List ModuleNode :=
  (c.edges.filter fun e => near e = id).filterMap fun e => c.getNode (far e)

def hit (needle : List Char) (node : ModuleNode) : Bool :=
  Text.occursIn needle (Text.lowerChars node.name.toList) ||
    Text.occursIn needle (Text.lowerChars node.nspace.toList)

def search (query : String) (limit : Nat) (c : Contents) : List ModuleNode :=
  (c.nodes.filter (hit (Text.lowerChars query.toList))).take (min limit maxSearchResults)

def stats (c : Contents) : StoreStats :=
  { modules := c.nodes.length, edges := c.edges.length, packages := c.packages.length }

/-- Nothing is stored twice, and edges lie between stored nodes. -/
structure WellFormed (c : Contents) : Prop where
  ids_nodup : c.ids.Nodup
  names_nodup : c.names.Nodup
  edges_nodup : c.edges.Nodup
  accepts_of_mem : ∀ e ∈ c.edges, c.accepts e

theorem accepts_iff (c : Contents) (e : Edge) :
    c.accepts e ↔ e.source ∈ c.ids ∧ e.target ∈ c.ids := by
  rw [accepts, decide_eq_true_iff]

theorem addEdge_of_accepts {c : Contents} {e : Edge} (h : c.accepts e) :
    c.addEdge e = { c with edges := keep id c.edges e } := by
  rw [addEdge, if_pos h]

theorem addEdge_of_not_accepts {c : Contents} {e : Edge} (h : ¬ c.accepts e) :
    c.addEdge e = c := by
  rw [addEdge, if_neg h]

@[simp] theorem nodes_addEdge (e : Edge) (c : Contents) : (c.addEdge e).nodes = c.nodes := by
  by_cases h : c.accepts e
  · rw [addEdge_of_accepts h]
  · rw [addEdge_of_not_accepts h]

@[simp] theorem packages_addEdge (e : Edge) (c : Contents) :
    (c.addEdge e).packages = c.packages := by
  by_cases h : c.accepts e
  · rw [addEdge_of_accepts h]
  · rw [addEdge_of_not_accepts h]

theorem exists_getNode {c : Contents} {id : String} (h : id ∈ c.ids) :
    ∃ node, c.getNode id = some node ∧ node.id = id := by
  obtain ⟨node, hnode⟩ := Option.isSome_iff_exists.mp ((lookup?_isSome_iff _ c.nodes id).mpr h)
  exact ⟨node, hnode, key_eq_of_lookup? _ hnode⟩

theorem WellFormed.getNode_of_mem {c : Contents} (h : c.WellFormed) {node : ModuleNode}
    (hnode : node ∈ c.nodes) : c.getNode node.id = some node :=
  lookup?_of_mem ModuleNode.id h.ids_nodup hnode

theorem mem_ids_addNode (node : ModuleNode) (c : Contents) (id : String) :
    id ∈ (c.addNode node).ids ↔ id ∈ c.ids ∨ id = node.id :=
  mem_keys_merge ModuleNode.id c.nodes node id

theorem WellFormed.empty : empty.WellFormed where
  ids_nodup := List.nodup_nil
  names_nodup := List.nodup_nil
  edges_nodup := List.nodup_nil
  accepts_of_mem _ he := absurd he List.not_mem_nil

theorem WellFormed.addNode {c : Contents} (h : c.WellFormed) (node : ModuleNode) :
    (c.addNode node).WellFormed where
  ids_nodup := nodup_keys_merge _ h.ids_nodup node
  names_nodup := h.names_nodup
  edges_nodup := h.edges_nodup
  accepts_of_mem e he := by
    obtain ⟨hsource, htarget⟩ := (accepts_iff c e).mp (h.accepts_of_mem e he)
    rw [accepts_iff, mem_ids_addNode, mem_ids_addNode]
    exact ⟨Or.inl hsource, Or.inl htarget⟩

theorem WellFormed.addEdge {c : Contents} (h : c.WellFormed) (edge : Edge) :
    (c.addEdge edge).WellFormed := by
  by_cases hacc : c.accepts edge
  · rw [addEdge_of_accepts hacc]
    constructor
    case ids_nodup => exact h.ids_nodup
    case names_nodup => exact h.names_nodup
    case edges_nodup =>
      have hkeys := nodup_keys_keep id (by simpa using h.edges_nodup) edge
      simpa using hkeys
    case accepts_of_mem =>
      intro e he
      obtain he | rfl := (mem_keep_id c.edges edge e).mp he
      · exact h.accepts_of_mem e he
      · exact hacc
  · rwa [addEdge_of_not_accepts hacc]

theorem WellFormed.addPackage {c : Contents} (h : c.WellFormed) (package : Package) :
    (c.addPackage package).WellFormed where
  ids_nodup := h.ids_nodup
  names_nodup := nodup_keys_merge _ h.names_nodup package
  edges_nodup := h.edges_nodup
  accepts_of_mem := h.accepts_of_mem

theorem WellFormed.write {c : Contents} (h : c.WellFormed) (u : Upsert) :
    (c.write u).WellFormed := by
  cases u with
  | node node => exact h.addNode node
  | edge edge => exact h.addEdge edge
  | package package => exact h.addPackage package

theorem WellFormed.writeAll {c : Contents} (h : c.WellFormed) (history : List Upsert) :
    (c.writeAll history).WellFormed := by
  induction history generalizing c with
  | nil => exact h
  | cons u history ih => exact ih (h.write u)

end Contents

/-- A store that is its contents, once its schema is made. -/
structure PlainStore where
  contents : Option Contents

namespace PlainStore

def fresh : PlainStore := ⟨none⟩

def ensureSchema (s : PlainStore) : PlainStore := ⟨some (s.contents.getD .empty)⟩

def read {α : Type} (f : Contents → α) (s : PlainStore) : Except Error α :=
  match s.contents with
  | some c => .ok (f c)
  | none => .error .schemaMissing

def write (f : Contents → Contents) : PlainStore → Except Error PlainStore :=
  read fun c => ⟨some (f c)⟩

def upsertEdge (edge : Edge) : PlainStore → Except Error (Bool × PlainStore) :=
  read fun c => (c.accepts edge, ⟨some (c.addEdge edge)⟩)

end PlainStore

instance : GraphStore PlainStore where
  ensureSchema := PlainStore.ensureSchema
  upsertNode node := PlainStore.write (Contents.addNode node)
  upsertEdge := PlainStore.upsertEdge
  upsertPackage package := PlainStore.write (Contents.addPackage package)
  getNode id := PlainStore.read (Contents.getNode id)
  listNodes limit := PlainStore.read fun c => c.nodes.take (min limit maxListedNodes)
  listEdges limit := PlainStore.read fun c => c.edges.take (min limit maxListedEdges)
  searchNodes query limit := PlainStore.read (Contents.search query limit)
  outgoing id := PlainStore.read (Contents.neighbours (·.source) (·.target) id)
  incoming id := PlainStore.read (Contents.neighbours (·.target) (·.source) id)
  listPackages limit := PlainStore.read fun c => c.packages.take (min limit maxListedPackages)
  stats := PlainStore.read Contents.stats

end CodeAtlas
