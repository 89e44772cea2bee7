import CodeAtlas.Proofs.Store.Memory

/-!
# The tables of a graph fit its arrays

A graph keeps its nodes, edges and packages in arrays and five tables beside them. Whatever a store is
used for, every table says exactly what a search of the arrays finds. So no position misses its array,
no edge loses its end, and the neighbours of a node are those of a scan of all edges.
-/

namespace CodeAtlas

open Keyed

namespace Graph

/-- The table leads from the key of each entry to the one position of that key, and from no other
key. -/
def Leads {α : Type} (key : α → String) (entries : Array α) (table : Std.HashMap String Nat) : Prop :=
  ∀ k p, table[k]? = some p ↔ ∃ x, entries[p]? = some x ∧ key x = k

/-- Under each id the table lists the positions of exactly the edges with that id at the given end, in
ascending order. -/
structure Adjacent (near : Edge → String) (edges : Array Edge)
    (table : Std.HashMap String (Array Nat)) : Prop where
  ascending : ∀ id, (table.getD id #[]).toList.Pairwise (· < ·)
  mem_iff : ∀ id p, p ∈ table.getD id #[] ↔ ∃ e, edges[p]? = some e ∧ near e = id

structure Intact (g : Graph) : Prop where
  nodeIndex : Leads (·.id) g.nodes g.nodeIndex
  packageIndex : Leads (·.name) g.packages g.packageIndex
  edges_nodup : g.edges.toList.Nodup
  mem_edgeSet_iff : ∀ e, e ∈ g.edgeSet ↔ e ∈ g.edges
  outgoing : Adjacent (·.source) g.edges g.outgoing
  incoming : Adjacent (·.target) g.edges g.incoming
  ends_mem : ∀ e ∈ g.edges, e.source ∈ g.nodeIndex ∧ e.target ∈ g.nodeIndex

/-- No table holds a position beyond its array. -/
structure InBounds (g : Graph) : Prop where
  nodeIndex : ∀ (id : String) p, g.nodeIndex[id]? = some p → p < g.nodes.size
  packageIndex : ∀ (name : String) p, g.packageIndex[name]? = some p → p < g.packages.size
  outgoing : ∀ id, ∀ p ∈ g.outgoing.getD id #[], p < g.edges.size
  incoming : ∀ id, ∀ p ∈ g.incoming.getD id #[], p < g.edges.size

def scan (near far : Edge → String) (id : String) (g : Graph) : List (Option ModuleNode) :=
  (g.edges.toList.filter fun e => near e = id).map fun e =>
    g.nodes.toList.find? fun node => node.id = far e

theorem Leads.lt_size {α : Type} {key : α → String} {entries : Array α}
    {table : Std.HashMap String Nat} (h : Leads key entries table) {k : String} {p : Nat}
    (hp : table[k]? = some p) : p < entries.size := by
  obtain ⟨x, hx, -⟩ := (h k p).mp hp
  exact (Array.getElem?_eq_some_iff.mp hx).1

theorem Adjacent.lt_size {near : Edge → String} {edges : Array Edge}
    {table : Std.HashMap String (Array Nat)} (h : Adjacent near edges table) {id : String} {p : Nat}
    (hp : p ∈ table.getD id #[]) : p < edges.size := by
  obtain ⟨e, he, -⟩ := (h.mem_iff id p).mp hp
  exact (Array.getElem?_eq_some_iff.mp he).1

theorem Lists.adjacent {near : Edge → String} {edges : Array Edge}
    {table : Std.HashMap String (Array Nat)} (h : Lists table near edges) :
    Adjacent near edges table where
  ascending id := by
    rw [h id]
    exact List.pairwise_findIdxs
  mem_iff id p := by
    rw [← Array.mem_toList_iff, h id, mem_findIdxs_iff]
    simp only [Array.getElem?_toList, decide_eq_true_iff]

theorem Intact.inBounds {g : Graph} (h : g.Intact) : g.InBounds where
  nodeIndex _ _ hp := h.nodeIndex.lt_size hp
  packageIndex _ _ hp := h.packageIndex.lt_size hp
  outgoing _ _ hp := h.outgoing.lt_size hp
  incoming _ _ hp := h.incoming.lt_size hp

namespace Consistent

variable {g : Graph}

theorem intact (h : g.Consistent) (hwf : g.contents.WellFormed) : g.Intact where
  nodeIndex := h.nodes.getElem?_eq_some_iff
  packageIndex := h.packages.getElem?_eq_some_iff
  edges_nodup := hwf.edges_nodup
  mem_edgeSet_iff e := by rw [h.mem_edgeSet, Array.mem_toList_iff]
  outgoing := h.outgoing.adjacent
  incoming := h.incoming.adjacent
  ends_mem e he := by
    rw [h.nodes.mem_iff, h.nodes.mem_iff]
    exact (Contents.accepts_iff _ e).mp (hwf.accepts_of_mem e (Array.mem_toList_iff.mpr he))

end Consistent

end Graph

namespace Contents

theorem map_some_getNode {c : Contents} {far : Edge → String} (hfar : ∀ e ∈ c.edges, far e ∈ c.ids)
    (p : Edge → Bool) : ((c.edges.filter p).filterMap fun e => c.getNode (far e)).map some =
      (c.edges.filter p).map fun e => c.getNode (far e) := by
  rw [List.map_filterMap]
  apply List.filterMap_eq_map_iff_forall_eq_some.mpr
  intro e he
  obtain ⟨node, hnode, -⟩ := exists_getNode (hfar e (List.mem_of_mem_filter he))
  rw [hnode]
  rfl

theorem map_some_neighbours {c : Contents} {near far : Edge → String}
    (hfar : ∀ e ∈ c.edges, far e ∈ c.ids) (id : String) :
    (c.neighbours near far id).map some =
      (c.edges.filter fun e => near e = id).map fun e => c.getNode (far e) :=
  map_some_getNode hfar fun e => near e = id

theorem WellFormed.source_mem {c : Contents} (h : c.WellFormed) (e : Edge) (he : e ∈ c.edges) :
    e.source ∈ c.ids :=
  ((accepts_iff c e).mp (h.accepts_of_mem e he)).1

theorem WellFormed.target_mem {c : Contents} (h : c.WellFormed) (e : Edge) (he : e ∈ c.edges) :
    e.target ∈ c.ids :=
  ((accepts_iff c e).mp (h.accepts_of_mem e he)).2

end Contents

namespace MemoryStore

/-- The neighbours that a store tells of, once it has a schema, are those of a scan, and each of them is
found. -/
structure Scans (s : MemoryStore) : Prop where
  outgoing : ∀ id, ∃ targets, targets.map some = s.graph.scan (·.source) (·.target) id ∧
    GraphStore.outgoing id s = if s.schemaReady then .ok targets else .error .schemaMissing
  incoming : ∀ id, ∃ sources, sources.map some = s.graph.scan (·.target) (·.source) id ∧
    GraphStore.incoming id s = if s.schemaReady then .ok sources else .error .schemaMissing

theorem Shows.scans {s : MemoryStore} {p : PlainStore} (h : Shows s p) : s.Scans where
  outgoing id := by
    refine ⟨s.graph.targetsOf id, ?_, rfl⟩
    rw [h.consistent.targetsOf_eq]
    exact Contents.map_some_neighbours h.wellFormed.target_mem id
  incoming id := by
    refine ⟨s.graph.sourcesOf id, ?_, rfl⟩
    rw [h.consistent.sourcesOf_eq]
    exact Contents.map_some_neighbours h.wellFormed.source_mem id

/-- After any use of a new store its tables fit its arrays, so that every position lies within its
array and neighbours are those of a scan. -/
theorem intact_after (calls : List Call) :
    (Call.after fresh calls).graph.Intact ∧ (Call.after fresh calls).graph.InBounds ∧
      (Call.after fresh calls).Scans := by
  have hafter := Shows.simulation.after Shows.fresh calls
  have hintact := hafter.consistent.intact hafter.wellFormed
  exact ⟨hintact, hintact.inBounds, hafter.scans⟩

end MemoryStore

end CodeAtlas
