import CodeAtlas.Proofs.Keyed.Index
import CodeAtlas.Proofs.Keyed.Positions
import CodeAtlas.Proofs.Store.Simulation
import CodeAtlas.Store.Memory

/-!
# The store in memory keeps to its contents

The indices of a graph always lead to what its arrays hold, so every operation on them is the one on
the plain lists.
-/

namespace CodeAtlas

open Keyed

namespace Graph

def contents (g : Graph) : Contents := ⟨g.nodes.toList, g.edges.toList, g.packages.toList⟩

def Lists (table : Std.HashMap String (Array Nat)) (near : Edge → String) (edges : Array Edge) :
    Prop :=
  ∀ id, (table.getD id #[]).toList = edges.toList.findIdxs fun e => near e = id

/-- The indices say what the arrays hold. -/
structure Consistent (g : Graph) : Prop where
  nodes : Indexed (·.id) g.nodes g.nodeIndex
  packages : Indexed (·.name) g.packages g.packageIndex
  mem_edgeSet : ∀ e, e ∈ g.edgeSet ↔ e ∈ g.edges.toList
  outgoing : Lists g.outgoing (·.source) g.edges
  incoming : Lists g.incoming (·.target) g.edges

theorem Lists.addPosition {table : Std.HashMap String (Array Nat)} {near : Edge → String}
    {edges : Array Edge} (h : Lists table near edges) (edge : Edge) :
    Lists (Graph.addPosition table (near edge) edges.size) near (edges.push edge) := by
  intro id
  rw [Graph.addPosition, Std.HashMap.getD_insert, Array.toList_push, findIdxs_concat, ← h id]
  by_cases hid : near edge = id
  · simp [hid]
  · simp [hid]

theorem Lists.edgesAt_eq {table : Std.HashMap String (Array Nat)} {near : Edge → String}
    {g : Graph} (h : Lists table near g.edges) (id : String) :
    g.edgesAt table id = g.edges.toList.filter fun e => near e = id := by
  rw [edgesAt, h id, ← filterMap_getElem?_findIdxs]
  simp only [Array.getElem?_toList]

namespace Consistent

variable {g : Graph}

theorem empty : Consistent .empty where
  nodes := Indexed.empty _
  packages := Indexed.empty _
  mem_edgeSet e := by simp [Graph.empty]
  outgoing id := by simp [Graph.empty]
  incoming id := by simp [Graph.empty]

theorem upsertNode (h : g.Consistent) (node : ModuleNode) :
    (g.upsertNode node).Consistent ∧
      (g.upsertNode node).contents = g.contents.addNode node := by
  rw [Graph.upsertNode]
  cases hp : g.nodeIndex[node.id]? with
  | none =>
    refine ⟨⟨h.nodes.push hp, h.packages, h.mem_edgeSet, h.outgoing, h.incoming⟩, ?_⟩
    rw [contents, h.nodes.toList_push hp]
    rfl
  | some position =>
    refine ⟨⟨h.nodes.set hp, h.packages, h.mem_edgeSet, h.outgoing, h.incoming⟩, ?_⟩
    rw [contents, h.nodes.toList_set hp]
    rfl

theorem upsertPackage (h : g.Consistent) (package : Package) :
    (g.upsertPackage package).Consistent ∧
      (g.upsertPackage package).contents = g.contents.addPackage package := by
  rw [Graph.upsertPackage]
  cases hp : g.packageIndex[package.name]? with
  | none =>
    refine ⟨⟨h.nodes, h.packages.push hp, h.mem_edgeSet, h.outgoing, h.incoming⟩, ?_⟩
    rw [contents, h.packages.toList_push hp]
    rfl
  | some position =>
    refine ⟨⟨h.nodes, h.packages.set hp, h.mem_edgeSet, h.outgoing, h.incoming⟩, ?_⟩
    rw [contents, h.packages.toList_set hp]
    rfl

theorem insertEdge (h : g.Consistent) (edge : Edge) :
    (g.insertEdge edge).Consistent ∧
      (g.insertEdge edge).contents =
        { g.contents with edges := keep id g.contents.edges edge } := by
  have hset : g.edgeSet.contains edge ↔ id edge ∈ g.contents.edges.map id := by
    rw [List.map_id, Std.HashSet.contains_iff_mem]
    exact h.mem_edgeSet edge
  by_cases hmem : g.edgeSet.contains edge
  · rw [Graph.insertEdge, if_pos hmem, keep_of_mem id (hset.mp hmem)]
    exact ⟨h, rfl⟩
  · rw [Graph.insertEdge, if_neg hmem, keep_of_not_mem id (mt hset.mpr hmem)]
    constructor
    · refine ⟨h.nodes, h.packages, ?_, h.outgoing.addPosition edge, h.incoming.addPosition edge⟩
      intro e
      rw [Std.HashSet.mem_insert, h.mem_edgeSet, Array.toList_push, List.mem_append,
        List.mem_singleton, beq_iff_eq, or_comm, eq_comm]
    · rw [contents, Array.toList_push]
      rfl

theorem accepts_eq (h : g.Consistent) (edge : Edge) :
    (g.nodeIndex.contains edge.source && g.nodeIndex.contains edge.target) =
      g.contents.accepts edge := by
  rw [h.nodes.contains_eq, h.nodes.contains_eq, Contents.accepts, Bool.decide_and]
  rfl

theorem upsertEdge (h : g.Consistent) (edge : Edge) :
    (g.upsertEdge edge).1 = g.contents.accepts edge ∧ (g.upsertEdge edge).2.Consistent ∧
      (g.upsertEdge edge).2.contents = g.contents.addEdge edge := by
  rw [Graph.upsertEdge, h.accepts_eq]
  by_cases hacc : g.contents.accepts edge
  · rw [if_pos hacc, Contents.addEdge_of_accepts hacc]
    exact ⟨hacc.symm, h.insertEdge edge⟩
  · rw [if_neg hacc, Contents.addEdge_of_not_accepts hacc]
    exact ⟨(Bool.eq_false_iff.mpr hacc).symm, h, rfl⟩

theorem getNode_eq (h : g.Consistent) (id : String) : g.getNode id = g.contents.getNode id :=
  h.nodes.bind_getElem? id

/-- Every edge is an import. -/
theorem importedOver_eq (h : g.Consistent) {table : Std.HashMap String (Array Nat)}
    {near : Edge → String} (htable : Lists table near g.edges) (far : Edge → String) (id : String) :
    g.importedOver table far id = g.contents.neighbours near far id := by
  have hkind : ((g.edgesAt table id).filter fun edge => edge.kind = .imports) =
      g.edgesAt table id := by
    rw [List.filter_eq_self]
    intro edge _
    cases edge.kind
    rfl
  rw [importedOver, hkind, htable.edgesAt_eq]
  simp only [h.getNode_eq]
  rfl

theorem targetsOf_eq (h : g.Consistent) (id : String) :
    g.targetsOf id = g.contents.neighbours (·.source) (·.target) id :=
  h.importedOver_eq h.outgoing (·.target) id

theorem sourcesOf_eq (h : g.Consistent) (id : String) :
    g.sourcesOf id = g.contents.neighbours (·.target) (·.source) id :=
  h.importedOver_eq h.incoming (·.source) id

end Consistent

end Graph

namespace MemoryStore

/-- The plain store has the contents of the graph once there is a schema, and no earlier. -/
structure Shows (s : MemoryStore) (p : PlainStore) : Prop where
  consistent : s.graph.Consistent
  contents : p.contents = if s.schemaReady then some s.graph.contents else none
  empty : s.schemaReady = false → s.graph.contents = .empty
  wellFormed : s.graph.contents.WellFormed

namespace Shows

variable {s : MemoryStore} {p : PlainStore}

theorem fresh : Shows .fresh .fresh where
  consistent := Graph.Consistent.empty
  contents := rfl
  empty _ := rfl
  wellFormed := Contents.WellFormed.empty

theorem contents_of_ready (h : Shows s p) (hs : s.schemaReady = true) :
    p.contents = some s.graph.contents := by
  rw [h.contents, if_pos hs]

theorem contents_of_not_ready (h : Shows s p) (hs : ¬ s.schemaReady = true) :
    p.contents = none := by
  rw [h.contents, if_neg hs]

theorem graph_contents (h : Shows s p) : s.graph.contents = p.contents.getD .empty := by
  by_cases hs : s.schemaReady = true
  · rw [h.contents_of_ready hs, Option.getD_some]
  · rw [h.contents_of_not_ready hs, Option.getD_none, h.empty (Bool.eq_false_iff.mpr hs)]

theorem schemaReady {c : Contents} (h : Shows s ⟨some c⟩) : s.schemaReady = true := by
  by_contra hs
  cases h.contents_of_not_ready hs

theorem wellFormed_contents {c : Contents} (h : Shows s ⟨some c⟩) : c.WellFormed := by
  have hc : s.graph.contents = c := h.graph_contents
  exact hc ▸ h.wellFormed

theorem of_ready (hs : s.schemaReady = true) {g : Graph} (hg : g.Consistent)
    (hwf : g.contents.WellFormed) : Shows { s with graph := g } ⟨some g.contents⟩ where
  consistent := hg
  contents := (if_pos hs).symm
  empty hn := absurd (hs.symm.trans hn) Bool.noConfusion
  wellFormed := hwf

theorem ensureSchema (h : Shows s p) : Shows s.ensureSchema p.ensureSchema where
  consistent := h.consistent
  contents := congrArg some h.graph_contents.symm
  empty hs := Bool.noConfusion hs
  wellFormed := h.wellFormed

theorem read {α : Type} {f : Graph → α} {f' : Contents → α} (h : Shows s p)
    (hf : f s.graph = f' s.graph.contents) :
    Agree Eq (MemoryStore.read f s) (PlainStore.read f' p) := by
  by_cases hs : s.schemaReady = true
  · rw [MemoryStore.read, if_pos hs, PlainStore.read, h.contents_of_ready hs]
    exact .ok hf
  · rw [MemoryStore.read, if_neg hs, PlainStore.read, h.contents_of_not_ready hs]
    exact .error

theorem write {f : Graph → Graph} {f' : Contents → Contents} (h : Shows s p)
    (hf : (f s.graph).Consistent ∧ (f s.graph).contents = f' s.graph.contents)
    (hwf : (f' s.graph.contents).WellFormed) :
    Agree Shows (MemoryStore.write f s) (PlainStore.write f' p) := by
  by_cases hs : s.schemaReady = true
  · rw [MemoryStore.write, if_pos hs, PlainStore.write, PlainStore.read, h.contents_of_ready hs]
    rw [← hf.2] at hwf
    simp only [← hf.2]
    exact .ok (of_ready hs hf.1 hwf)
  · rw [MemoryStore.write, if_neg hs, PlainStore.write, PlainStore.read,
      h.contents_of_not_ready hs]
    exact .error

theorem upsertEdge (h : Shows s p) (edge : Edge) :
    Agree (Alongside Shows) (s.upsertEdge edge) (p.upsertEdge edge) := by
  obtain ⟨hstored, hgraph, hcontents⟩ := h.consistent.upsertEdge edge
  have hwf := h.wellFormed.addEdge edge
  by_cases hs : s.schemaReady = true
  · rw [MemoryStore.upsertEdge, if_pos hs, PlainStore.upsertEdge, PlainStore.read,
      h.contents_of_ready hs]
    rw [← hcontents] at hwf
    simp only [← hcontents]
    exact .ok ⟨hstored, of_ready hs hgraph hwf⟩
  · rw [MemoryStore.upsertEdge, if_neg hs, PlainStore.upsertEdge, PlainStore.read,
      h.contents_of_not_ready hs]
    exact .error

theorem simulation : Simulation Shows where
  ensureSchema h := h.ensureSchema
  upsertNode h node := h.write (h.consistent.upsertNode node) (h.wellFormed.addNode node)
  upsertEdge h edge := h.upsertEdge edge
  upsertPackage h package :=
    h.write (h.consistent.upsertPackage package) (h.wellFormed.addPackage package)
  getNode h id := h.read (h.consistent.getNode_eq id)
  listNodes h _ := h.read rfl
  listEdges h _ := h.read rfl
  listPackages h _ := h.read rfl
  searchNodes h _ _ := h.read rfl
  outgoing h id := h.read (h.consistent.targetsOf_eq id)
  incoming h id := h.read (h.consistent.sourcesOf_eq id)
  stats h := h.read rfl

end Shows

end MemoryStore

end CodeAtlas
