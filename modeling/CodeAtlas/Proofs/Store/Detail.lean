import CodeAtlas.Proofs.Store.Intact

/-!
# The details of a module

The details that a store gives of a module, told by its contents. Two of them are the same just if they
agree on the node, on the ids and the names of its neighbours, and on the packages. Edges are never
removed, so neighbours stay where they are once they are there.
-/

namespace CodeAtlas

open Keyed

def ModuleNode.label (node : ModuleNode) : String × String := (node.id, node.name)

theorem GraphStore.distinct_eq_eraseDups (texts : List String) : distinct texts = texts.eraseDups := by
  induction texts using List.reverseRecOn with
  | nil => rfl
  | append_singleton texts t ih =>
    rw [distinct, List.foldl_concat, ← distinct, ih, eraseDups_concat]
    simp only [List.mem_eraseDups]

open GraphStore in
theorem assembleDetail_eq_iff {node node' : ModuleNode}
    {targets targets' sources sources' : List ModuleNode} {packages packages' : List Package} :
    assembleDetail node targets sources packages =
        assembleDetail node' targets' sources' packages' ↔
      node = node' ∧ targets.map (·.label) = targets'.map (·.label) ∧
        sources.map (·.label) = sources'.map (·.label) ∧ packages = packages' := by
  constructor
  · intro h
    rw [assembleDetail, assembleDetail, ModuleDetail.mk.injEq] at h
    obtain ⟨hid, hname, hnspace, hkind, hpath, -, hout, hin, hpackages⟩ := h
    have hnode : node = node' := by
      cases node
      cases node'
      simp_all
    have htargets := congrArg (List.map fun r : Relation => (r.nodeId, r.targetName)) hout
    have hsources := congrArg (List.map fun r : Relation => (r.nodeId, r.sourceName)) hin
    rw [List.map_map, List.map_map] at htargets hsources
    exact ⟨hnode, htargets, hsources, hpackages⟩
  · rintro ⟨rfl, htargets, hsources, rfl⟩
    have hnames := congrArg (List.map (·.2)) htargets
    have hout := congrArg (List.map fun l : String × String => Relation.mk l.1 node.name l.2) htargets
    have hin := congrArg (List.map fun l : String × String => Relation.mk l.1 l.2 node.name) hsources
    rw [List.map_map, List.map_map] at hnames hout hin
    rw [assembleDetail, assembleDetail, ModuleDetail.mk.injEq]
    exact ⟨rfl, rfl, rfl, rfl, rfl, congrArg distinct hnames, hout, hin, rfl⟩

namespace Contents

variable {c : Contents}

def targetsOf (id : String) (c : Contents) : List ModuleNode :=
  c.neighbours (·.source) (·.target) id

def sourcesOf (id : String) (c : Contents) : List ModuleNode :=
  c.neighbours (·.target) (·.source) id

def detail (id : String) (c : Contents) : Option ModuleDetail :=
  (c.getNode id).map fun node =>
    GraphStore.assembleDetail node (c.targetsOf id) (c.sourcesOf id)
      (c.packages.take (min detailPackageLimit maxListedPackages))

theorem moduleDetail_eq (id : String) (c : Contents) :
    GraphStore.moduleDetail id (⟨some c⟩ : PlainStore) = .ok (c.detail id) := by
  have hget : GraphStore.getNode id (⟨some c⟩ : PlainStore) = .ok (c.getNode id) := rfl
  rw [GraphStore.moduleDetail, hget, detail]
  cases c.getNode id with
  | none => rfl
  | some node => rfl

theorem ids_neighbours {near far : Edge → String} (hfar : ∀ e ∈ c.edges, far e ∈ c.ids)
    (id : String) : (c.neighbours near far id).map (·.id) =
      (c.edges.filter fun e => near e = id).map far := by
  rw [neighbours, List.map_filterMap]
  apply List.filterMap_eq_map_iff_forall_eq_some.mpr
  intro e he
  obtain ⟨node, hnode, hid⟩ := exists_getNode (hfar e (List.mem_of_mem_filter he))
  rw [hnode, Option.map_some, hid]

theorem edges_prefix_write (c : Contents) (u : Upsert) : c.edges <+: (c.write u).edges := by
  cases u with
  | node node => exact List.prefix_rfl
  | edge edge =>
    by_cases hacc : c.accepts edge
    · rw [write, addEdge_of_accepts hacc, keep]
      split
      · exact List.prefix_rfl
      · exact List.prefix_append _ _
    · simp only [write, addEdge_of_not_accepts hacc, List.prefix_rfl]
  | package package => exact List.prefix_rfl

theorem edges_prefix_writeAll (c : Contents) (history : List Upsert) :
    c.edges <+: (c.writeAll history).edges := by
  induction history generalizing c with
  | nil => exact List.prefix_rfl
  | cons u history ih => exact (c.edges_prefix_write u).trans (ih (c.write u))

theorem WellFormed.targetsOf_prefix (h : c.WellFormed) (id : String) (history : List Upsert) :
    (c.targetsOf id).map (·.id) <+: ((c.writeAll history).targetsOf id).map (·.id) := by
  rw [targetsOf, targetsOf, ids_neighbours h.target_mem,
    ids_neighbours (h.writeAll history).target_mem]
  exact ((c.edges_prefix_writeAll history).filter _).map _

theorem WellFormed.sourcesOf_prefix (h : c.WellFormed) (id : String) (history : List Upsert) :
    (c.sourcesOf id).map (·.id) <+: ((c.writeAll history).sourcesOf id).map (·.id) := by
  rw [sourcesOf, sourcesOf, ids_neighbours h.source_mem,
    ids_neighbours (h.writeAll history).source_mem]
  exact ((c.edges_prefix_writeAll history).filter _).map _

theorem detail_eq_some_iff (id : String) (c : Contents) {node : ModuleNode}
    {targets sources : List ModuleNode} {packages : List Package} :
    c.detail id = some (GraphStore.assembleDetail node targets sources packages) ↔
      c.getNode id = some node ∧ (c.targetsOf id).map (·.label) = targets.map (·.label) ∧
        (c.sourcesOf id).map (·.label) = sources.map (·.label) ∧
          c.packages.take (min detailPackageLimit maxListedPackages) = packages := by
  rw [detail, Option.map_eq_some_iff]
  constructor
  · rintro ⟨node', hnode, h⟩
    obtain ⟨rfl, hneighbours⟩ := assembleDetail_eq_iff.mp h
    exact ⟨hnode, hneighbours⟩
  · rintro ⟨hnode, h⟩
    exact ⟨node, hnode, assembleDetail_eq_iff.mpr ⟨rfl, h⟩⟩

end Contents

namespace MemoryStore.Shows

variable {s : MemoryStore} {c : Contents}

theorem getNode_eq (h : Shows s ⟨some c⟩) (id : String) :
    GraphStore.getNode id s = .ok (c.getNode id) :=
  (simulation.getNode h id).eq_ok

theorem outgoing_eq (h : Shows s ⟨some c⟩) (id : String) :
    GraphStore.outgoing id s = .ok (c.targetsOf id) :=
  (simulation.outgoing h id).eq_ok

theorem incoming_eq (h : Shows s ⟨some c⟩) (id : String) :
    GraphStore.incoming id s = .ok (c.sourcesOf id) :=
  (simulation.incoming h id).eq_ok

theorem listPackages_eq (h : Shows s ⟨some c⟩) (limit : Nat) :
    GraphStore.listPackages limit s = .ok (c.packages.take (min limit maxListedPackages)) :=
  (simulation.listPackages h limit).eq_ok

theorem moduleDetail_eq (h : Shows s ⟨some c⟩) (id : String) :
    GraphStore.moduleDetail id s = .ok (c.detail id) := by
  have hagree := simulation.moduleDetail h id
  rw [Contents.moduleDetail_eq] at hagree
  exact hagree.eq_ok

end MemoryStore.Shows

end CodeAtlas
