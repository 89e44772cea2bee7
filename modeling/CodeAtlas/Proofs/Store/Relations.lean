import CodeAtlas.Proofs.Store.Batch
import CodeAtlas.Proofs.Store.Detail
import Mathlib.Algebra.BigOperators.Group.Finset.Basic
import Mathlib.Algebra.Ring.Nat

/-!
# The relations in the details

The details of all modules together tell the edges of the graph. Every edge is told once at its source
and once at its target, both times by the names that its ends have now, and nothing else is told. So the
relations in either direction are as many as the edges.
-/

namespace CodeAtlas

open Keyed

theorem Keyed.sum_length_filter {α κ : Type} [DecidableEq κ] (key : α → κ) {keys : List κ}
    (hnd : keys.Nodup) {xs : List α} (hxs : ∀ x ∈ xs, key x ∈ keys) :
    (keys.map fun k => (xs.filter fun x => key x = k).length).sum = xs.length := by
  have hcount (k : κ) :
      (xs.filter fun x => key x = k).length = (xs.map key : Multiset κ).count k := by
    rw [Multiset.coe_count, ← List.countP_eq_length_filter, List.count, List.countP_map]
    congr
  have hkeys : ∀ k ∈ (xs.map key : Multiset κ), k ∈ keys.toFinset := by
    intro k hk
    obtain ⟨x, hx, rfl⟩ := List.mem_map.mp (Multiset.mem_coe.mp hk)
    exact List.mem_toFinset.mpr (hxs x hx)
  simp only [hcount]
  calc (keys.map fun k => (xs.map key : Multiset κ).count k).sum
      = ∑ k ∈ keys.toFinset, (xs.map key : Multiset κ).count k := (List.sum_toFinset _ hnd).symm
    _ = (xs.map key).length := Multiset.sum_count_eq_card hkeys
    _ = xs.length := List.length_map key

theorem Edge.eq_importing_iff (e : Edge) (a b : String) :
    e = .importing a b ↔ e.source = a ∧ e.target = b := by
  obtain ⟨source, target, kind⟩ := e
  cases kind
  simp [importing]

namespace Contents

variable {c : Contents} {near far : Edge → String}

theorem filter_neighbours (near far : Edge → String) (id : String) (p : String → Bool) (c : Contents) :
    (c.neighbours near far id).filter (fun n => p n.id) =
      (c.edges.filter fun e => near e = id ∧ p (far e)).filterMap fun e => c.getNode (far e) := by
  have hget (other : String) : (c.getNode other).filter (fun n => p n.id) =
      if p other then c.getNode other else none := by
    cases hnode : c.getNode other with
    | none => simp
    | some node =>
      have hid : node.id = other := key_eq_of_lookup? _ hnode
      rw [Option.filter_some, hid]
  have hedges : (c.edges.filter fun e => near e = id ∧ p (far e)) =
      (c.edges.filter fun e => near e = id).filter fun e => p (far e) := by
    rw [List.filter_filter]
    apply List.filter_congr
    intro e _
    rw [Bool.decide_and, Bool.decide_eq_true, Bool.and_comm]
  rw [hedges, neighbours, List.filter_filterMap]
  simp only [hget]
  exact List.filterMap_filter.symm

theorem WellFormed.filter_neighbours_id (h : c.WellFormed) {id : String} {node : ModuleNode}
    (hnode : node ∈ c.nodes) {edge : Edge}
    (hedge : ∀ e, e = edge ↔ near e = id ∧ far e = node.id) :
    (c.neighbours near far id).filter (fun n => n.id = node.id) =
      if edge ∈ c.edges then [node] else [] := by
  have hone : (c.edges.filter fun e => near e = id ∧ decide (far e = node.id)) =
      if edge ∈ c.edges then [edge] else [] := by
    simp only [decide_eq_true_iff, ← hedge]
    rw [List.filter_eq, h.edges_nodup.count]
    split <;> rfl
  have hfar : far edge = node.id := ((hedge edge).mp rfl).2
  rw [filter_neighbours near far id fun other => decide (other = node.id), hone]
  split
  · simp [hfar, h.getNode_of_mem hnode]
  · rfl

theorem WellFormed.filter_targetsOf (h : c.WellFormed) (a : String) {b : ModuleNode}
    (hb : b ∈ c.nodes) : (c.targetsOf a).filter (fun n => n.id = b.id) =
      if Edge.importing a b.id ∈ c.edges then [b] else [] :=
  h.filter_neighbours_id hb fun e => e.eq_importing_iff a b.id

theorem WellFormed.filter_sourcesOf (h : c.WellFormed) {a : ModuleNode} (ha : a ∈ c.nodes)
    (b : String) : (c.sourcesOf b).filter (fun n => n.id = a.id) =
      if Edge.importing a.id b ∈ c.edges then [a] else [] :=
  h.filter_neighbours_id ha fun e => (e.eq_importing_iff a.id b).trans and_comm

theorem length_neighbours (hfar : ∀ e ∈ c.edges, far e ∈ c.ids) (id : String) :
    (c.neighbours near far id).length = (c.edges.filter fun e => near e = id).length := by
  have hids := congrArg List.length (@ids_neighbours c near far hfar id)
  rwa [List.length_map, List.length_map] at hids

theorem WellFormed.sum_neighbours (h : c.WellFormed) (hnear : ∀ e ∈ c.edges, near e ∈ c.ids)
    (hfar : ∀ e ∈ c.edges, far e ∈ c.ids) :
    (c.nodes.map fun node => (c.neighbours near far node.id).length).sum = c.edges.length := by
  have hsum := sum_length_filter near h.ids_nodup hnear
  simp only [length_neighbours hfar]
  rwa [ids, List.map_map] at hsum

theorem WellFormed.detail_of_mem (h : c.WellFormed) {node : ModuleNode} (hnode : node ∈ c.nodes) :
    c.detail node.id = some (GraphStore.assembleDetail node (c.targetsOf node.id)
      (c.sourcesOf node.id) (c.packages.take (min detailPackageLimit maxListedPackages))) := by
  rw [detail, h.getNode_of_mem hnode, Option.map_some]

theorem filter_relations_eq_iff {f : ModuleNode → Relation} (hid : ∀ n, (f n).nodeId = n.id)
    {neighbours : List ModuleNode} {node : ModuleNode} {stored : Prop} [Decidable stored]
    (h : neighbours.filter (fun n => n.id = node.id) = if stored then [node] else []) :
    (neighbours.map f).filter (fun r => r.nodeId = node.id) = [f node] ↔ stored := by
  have hcomp : (fun r : Relation => decide (r.nodeId = node.id)) ∘ f =
      fun n => decide (n.id = node.id) := by
    funext n
    rw [Function.comp_apply, hid]
  rw [List.filter_map, hcomp, h]
  by_cases hstored : stored <;> simp [hstored]

theorem WellFormed.mem_edges_iff_outgoing (h : c.WellFormed) {a b : ModuleNode} (ha : a ∈ c.nodes)
    (hb : b ∈ c.nodes) : Edge.importing a.id b.id ∈ c.edges ↔ ∃ d, c.detail a.id = some d ∧
      d.outgoing.filter (fun r => r.nodeId = b.id) = [⟨b.id, a.name, b.name⟩] := by
  have hone := filter_relations_eq_iff (f := fun t => ⟨t.id, a.name, t.name⟩) (fun _ => rfl)
    (h.filter_targetsOf a.id hb)
  simp only [h.detail_of_mem ha, Option.some.injEq, exists_eq_left']
  exact hone.symm

theorem WellFormed.mem_edges_iff_incoming (h : c.WellFormed) {a b : ModuleNode} (ha : a ∈ c.nodes)
    (hb : b ∈ c.nodes) : Edge.importing a.id b.id ∈ c.edges ↔ ∃ d, c.detail b.id = some d ∧
      d.incoming.filter (fun r => r.nodeId = a.id) = [⟨a.id, a.name, b.name⟩] := by
  have hone := filter_relations_eq_iff (f := fun t => ⟨t.id, t.name, b.name⟩) (fun _ => rfl)
    (h.filter_sourcesOf ha b.id)
  simp only [h.detail_of_mem hb, Option.some.injEq, exists_eq_left']
  exact hone.symm

end Contents

namespace MemoryStore

/-- The details of modules are those of one graph, whose nodes are the ones that were written. -/
structure Details (written : List Upsert) (g : Graph) (stats : StoreStats)
    (detail : String → Option ModuleDetail) : Prop where
  isSome_iff : ∀ id, (detail id).isSome ↔ id ∈ History.ids written
  outgoing_iff : ∀ a ∈ g.nodes.toList, ∀ b ∈ g.nodes.toList,
    Edge.importing a.id b.id ∈ g.edges.toList ↔ ∃ d, detail a.id = some d ∧
      d.outgoing.filter (fun r => r.nodeId = b.id) = [⟨b.id, a.name, b.name⟩]
  incoming_iff : ∀ a ∈ g.nodes.toList, ∀ b ∈ g.nodes.toList,
    Edge.importing a.id b.id ∈ g.edges.toList ↔ ∃ d, detail b.id = some d ∧
      d.incoming.filter (fun r => r.nodeId = a.id) = [⟨a.id, a.name, b.name⟩]
  outgoing_order : ∀ id d, detail id = some d →
    d.outgoing.map (·.nodeId) = (g.edges.toList.filter fun e => e.source = id).map (·.target)
  incoming_order : ∀ id d, detail id = some d →
    d.incoming.map (·.nodeId) = (g.edges.toList.filter fun e => e.target = id).map (·.source)
  imports : ∀ id d, detail id = some d → d.imports = (d.outgoing.map (·.targetName)).eraseDups
  total : ∃ details : List ModuleDetail,
    (g.nodes.toList.map fun node => detail node.id) = details.map some ∧
      (details.map fun d => d.outgoing.length).sum = stats.edges ∧
        (details.map fun d => d.incoming.length).sum = stats.edges

theorem Shows.details {s : MemoryStore} {written : List Upsert}
    (h : Shows s ⟨some (Contents.empty.writeAll written)⟩) :
    Details written s.graph s.graph.stats fun id => s.graph.contents.detail id := by
  have hwf := h.wellFormed
  constructor
  case isSome_iff =>
    intro id
    have hcontents : s.graph.contents = Contents.empty.writeAll written := h.graph_contents
    rw [Contents.detail, Option.isSome_map, hcontents, Contents.getNode_writeAll_empty,
      last?_isSome_iff, History.ids]
  case outgoing_iff => exact fun a ha b hb => hwf.mem_edges_iff_outgoing ha hb
  case incoming_iff => exact fun a ha b hb => hwf.mem_edges_iff_incoming ha hb
  case outgoing_order =>
    intro id d hd
    obtain ⟨node, -, rfl⟩ := Option.map_eq_some_iff.mp hd
    rw [GraphStore.assembleDetail, List.map_map]
    exact Contents.ids_neighbours hwf.target_mem id
  case incoming_order =>
    intro id d hd
    obtain ⟨node, -, rfl⟩ := Option.map_eq_some_iff.mp hd
    rw [GraphStore.assembleDetail, List.map_map]
    exact Contents.ids_neighbours hwf.source_mem id
  case imports =>
    intro id d hd
    obtain ⟨node, -, rfl⟩ := Option.map_eq_some_iff.mp hd
    rw [GraphStore.assembleDetail, GraphStore.distinct_eq_eraseDups, List.map_map]
    rfl
  case total =>
    have htargets := hwf.sum_neighbours hwf.source_mem hwf.target_mem
    have hsources := hwf.sum_neighbours hwf.target_mem hwf.source_mem
    refine ⟨s.graph.nodes.toList.map fun node => GraphStore.assembleDetail node
      (s.graph.contents.targetsOf node.id) (s.graph.contents.sourcesOf node.id)
      (s.graph.contents.packages.take (min detailPackageLimit maxListedPackages)), ?_, ?_, ?_⟩
    · rw [List.map_map]
      exact List.map_congr_left fun node hnode => hwf.detail_of_mem hnode
    · simp only [List.map_map, Function.comp_def, GraphStore.assembleDetail, List.length_map]
      exact htargets
    · simp only [List.map_map, Function.comp_def, GraphStore.assembleDetail, List.length_map]
      exact hsources

/-- Once a store has a schema, whatever it was used for before, it has details of just the nodes that
were written, and they tell every edge from both its ends. -/
theorem moduleDetails_dual (calls : List Call)
    (hready : (Call.after fresh calls).schemaReady = true) :
    let s := Call.after fresh calls
    ∃ stats detail, GraphStore.stats s = .ok stats ∧
      (∀ id, GraphStore.moduleDetail id s = .ok (detail id)) ∧
        Details (Call.carriedOut calls) s.graph stats detail := by
  intro s
  have hs : Shows s ⟨some (Contents.empty.writeAll (Call.carriedOut calls))⟩ :=
    shows_carriedOut hready
  have hcontents : s.graph.contents = Contents.empty.writeAll (Call.carriedOut calls) :=
    hs.graph_contents
  refine ⟨s.graph.stats, fun id => s.graph.contents.detail id, ?_, ?_, hs.details⟩
  · exact if_pos hready
  · intro id
    rw [hs.moduleDetail_eq, hcontents]

/-- Of the nodes that are written one comes before the schema, two have one name, and one imports itself
and is renamed later. -/
theorem moduleDetails_dual_renamed :
    let node (id name : String) : ModuleNode := ⟨id, name, "N", .cls, "a.txt"⟩
    let calls : List Call :=
      [.upsert (.node (node "z" "Z")), .ensureSchema,
        .ingest [node "a" "A", node "b" "B", node "c" "B"]
          [.importing "a" "c", .importing "a" "a", .importing "a" "z", .importing "a" "b"] [],
        .upsert (.node (node "a" "A2")), .upsert (.edge (.importing "b" "a")), .stats]
    let s := Call.after fresh calls
    s.schemaReady = true ∧ ∃ stats detail, GraphStore.stats s = .ok stats ∧
      (∀ id, GraphStore.moduleDetail id s = .ok (detail id)) ∧
        Details (Call.carriedOut calls) s.graph stats detail := by
  intro node calls s
  -- told by the calls alone, since the indices of the store do not evaluate
  have hready : s.schemaReady = true := schemaReady_after calls
  exact ⟨hready, moduleDetails_dual calls hready⟩

end MemoryStore

end CodeAtlas
