import CodeAtlas.Proofs.Keyed.Merge
import CodeAtlas.Proofs.Linker.NamespaceIndex
import CodeAtlas.Proofs.Text.ByteOrder
import Mathlib.Data.Finset.Card

/-!
# What an index is made of

An index has one entry for each namespace, in the order of their bytes, and each entry has the ascending
positions of its nodes. Sorting keeps the positions of one namespace in their order, and equal neighbours
are grouped with nothing between them. In every index of this form the namespaces with a start are one run
of entries, which begins where the search for the start ends.
-/

namespace CodeAtlas

namespace NamespaceIndex

/-- The index has each position of the nodes under its namespace, once, and every id at its position. -/
structure Represents (index : NamespaceIndex) (nodes : List ModuleNode) : Prop where
  increasing : index.entries.toList.Pairwise fun a b =>
    Text.encodeUtf8 a.nspace < Text.encodeUtf8 b.nspace
  positions_ne_nil : ∀ entry ∈ index.entries.toList, entry.positions ≠ []
  positions_increasing : ∀ entry ∈ index.entries.toList, entry.positions.Pairwise (· < ·)
  positions_lt : ∀ entry ∈ index.entries.toList, ∀ position ∈ entry.positions,
    position < nodes.length
  occurs_once : ∀ position node, nodes[position]? = some node →
    ∃ entry ∈ index.entries.toList, entry.nspace = node.nspace ∧
      ∀ other ∈ index.entries.toList, position ∈ other.positions ↔ other = entry
  ids : ∀ position : Nat, index.ids[position]? = nodes[position]?.map (·.id)

section Build

variable (nodes : List ModuleNode)

theorem nodup_namespaces : ((build nodes).entries.toList.map (·.nspace)).Nodup :=
  List.pairwise_map.mpr ((pairwise_build nodes).imp fun hlt => hlt.ne)

/-- The sort moves no two positions of one namespace past each other. -/
theorem filter_sortedNamespaces (nspace : String) :
    ((sortedNamespaces nodes).filter fun pair => decide (pair.1 = nspace)).map Prod.snd =
      nodes.findIdxs fun node => node.nspace = nspace := by
  have hsame : ((nodes.map (·.nspace)).zipIdx.filter fun pair => decide (pair.1 = nspace)).Pairwise
      fun a b => a.1 ≤ b.1 := by
    apply List.pairwise_of_forall_mem_list
    intro a ha b hb
    have ha' : a.1 = nspace := of_decide_eq_true (List.mem_filter.mp ha).2
    have hb' : b.1 = nspace := of_decide_eq_true (List.mem_filter.mp hb).2
    rw [ha', hb']
  rw [sortedNamespaces, Keyed.filter_mergeSort_fst hsame,
    Keyed.map_snd_filter_zipIdx fun name => decide (name = nspace), List.findIdxs_map]
  rfl

variable {nodes}

theorem exists_node {entry : NamespaceEntry} (h : entry ∈ (build nodes).entries.toList) :
    ∃ (position : Nat) (node : ModuleNode), nodes[position]? = some node ∧
      node.nspace = entry.nspace := by
  obtain ⟨pair, hpair, heq⟩ := mem_groupRuns h
  have hmem := List.fst_mem_of_mem_zipIdx (List.mem_mergeSort.mp hpair)
  obtain ⟨node, hnode, hnspace⟩ := List.mem_map.mp hmem
  obtain ⟨position, hposition⟩ := List.mem_iff_getElem?.mp hnode
  exact ⟨position, node, hposition, hnspace.trans heq⟩

theorem exists_entry {position : Nat} {node : ModuleNode} (h : nodes[position]? = some node) :
    ∃ entry ∈ (build nodes).entries.toList, entry.nspace = node.nspace := by
  have hname : (nodes.map (·.nspace))[position]? = some node.nspace := by
    rw [List.getElem?_map, h, Option.map_some]
  have hpair : (node.nspace, position) ∈ flatten (build nodes).entries.toList := by
    rw [flatten_build]
    exact List.mem_mergeSort.mpr (List.mk_mem_zipIdx_iff_getElem?.mpr hname)
  obtain ⟨entry, hentry, hmem⟩ := List.mem_flatMap.mp hpair
  obtain ⟨_, -, heq⟩ := List.mem_map.mp hmem
  exact ⟨entry, hentry, congrArg Prod.fst heq⟩

theorem positions_eq {entry : NamespaceEntry} (h : entry ∈ (build nodes).entries.toList) :
    entry.positions = nodes.findIdxs fun node => node.nspace = entry.nspace := by
  have hone : ((build nodes).entries.toList.filter fun other => other.nspace = entry.nspace) =
      [entry] := by
    rw [Keyed.filter_key_eq _ (nodup_namespaces nodes),
      Keyed.lookup?_of_mem _ (nodup_namespaces nodes) h, Option.toList_some]
  calc entry.positions
      = ((build nodes).entries.toList.filter fun other =>
          other.nspace = entry.nspace).flatMap (·.positions) := by
        rw [hone, List.flatMap_singleton]
    _ = ((flatten (build nodes).entries.toList).filter fun pair =>
          decide (pair.1 = entry.nspace)).map Prod.snd := by
        rw [filter_flatten fun nspace => decide (nspace = entry.nspace), map_snd_flatten]
    _ = nodes.findIdxs fun node => node.nspace = entry.nspace := by
        rw [flatten_build, filter_sortedNamespaces]

theorem mem_positions_iff {entry : NamespaceEntry} (h : entry ∈ (build nodes).entries.toList)
    (position : Nat) :
    position ∈ entry.positions ↔ ∃ node, nodes[position]? = some node ∧ node.nspace = entry.nspace := by
  rw [positions_eq h, Keyed.mem_findIdxs_iff]
  simp only [decide_eq_true_iff]

theorem represents (nodes : List ModuleNode) : (build nodes).Represents nodes := by
  constructor
  case increasing =>
    exact (pairwise_build nodes).imp fun hlt => (Text.encodeUtf8_lt_iff _ _).mpr hlt
  case positions_ne_nil =>
    intro entry hentry
    obtain ⟨position, node, hnode, heq⟩ := exists_node hentry
    exact List.ne_nil_of_mem ((mem_positions_iff hentry position).mpr ⟨node, hnode, heq⟩)
  case positions_increasing =>
    intro entry hentry
    rw [positions_eq hentry]
    exact List.pairwise_findIdxs
  case positions_lt =>
    intro entry hentry position hposition
    obtain ⟨node, hnode, -⟩ := (mem_positions_iff hentry position).mp hposition
    exact (List.getElem?_eq_some_iff.mp hnode).1
  case occurs_once =>
    intro position node hnode
    obtain ⟨entry, hentry, heq⟩ := exists_entry hnode
    refine ⟨entry, hentry, heq, ?_⟩
    intro other hother
    rw [mem_positions_iff hother]
    constructor
    · rintro ⟨node', hnode', heq'⟩
      obtain rfl : node' = node := Option.some.inj (hnode'.symm.trans hnode)
      exact List.inj_on_of_nodup_map (nodup_namespaces nodes) hother hentry (heq'.symm.trans heq.symm)
    · rintro rfl
      exact ⟨node, hnode, heq.symm⟩
  case ids => exact getElem?_ids_build nodes

end Build

namespace Represents

variable {index : NamespaceIndex} {nodes : List ModuleNode}

theorem sorted (h : index.Represents nodes) :
    index.entries.toList.Pairwise fun a b => a.nspace < b.nspace :=
  h.increasing.imp fun hlt => (Text.encodeUtf8_lt_iff _ _).mp hlt

theorem mem_namespaces_iff (h : index.Represents nodes) (nspace : String) :
    nspace ∈ index.entries.toList.map (·.nspace) ↔ nspace ∈ nodes.map (·.nspace) := by
  constructor
  · intro hmem
    obtain ⟨entry, hentry, rfl⟩ := List.mem_map.mp hmem
    obtain ⟨position, hposition⟩ := List.exists_mem_of_ne_nil _ (h.positions_ne_nil entry hentry)
    have hnode := List.getElem?_eq_getElem (h.positions_lt entry hentry position hposition)
    obtain ⟨entry', -, heq, honce⟩ := h.occurs_once position _ hnode
    obtain rfl : entry = entry' := (honce entry hentry).mp hposition
    rw [heq]
    exact List.mem_map_of_mem (List.mem_of_getElem? hnode)
  · intro hmem
    obtain ⟨node, hnode, rfl⟩ := List.mem_map.mp hmem
    obtain ⟨position, hposition⟩ := List.mem_iff_getElem?.mp hnode
    obtain ⟨entry, hentry, heq, -⟩ := h.occurs_once position node hposition
    exact List.mem_map.mpr ⟨entry, hentry, heq⟩

theorem namespaceCount_eq (h : index.Represents nodes) :
    index.namespaceCount = (nodes.map (·.nspace)).toFinset.card := by
  have hnodup : (index.entries.toList.map (·.nspace)).Nodup :=
    List.pairwise_map.mpr (h.sorted.imp fun hlt => hlt.ne)
  have hset : (index.entries.toList.map (·.nspace)).toFinset = (nodes.map (·.nspace)).toFinset := by
    ext nspace
    rw [List.mem_toFinset, List.mem_toFinset, h.mem_namespaces_iff]
  rw [← hset, List.toFinset_card_of_nodup hnodup, List.length_map, Array.length_toList, namespaceCount]

end Represents

/-- What is built from any nodes represents them, so that it counts their namespaces and has those with a
start in one run. -/
theorem build_represents (nodes : List ModuleNode) :
    (build nodes).Represents nodes ∧
      (build nodes).namespaceCount = (nodes.map (·.nspace)).toFinset.card ∧
      ∀ start, ∃ below run above, (build nodes).entries.toList = below ++ (run ++ above) ∧
        partitionPoint (build nodes).entries (fun entry => decide (entry.nspace < start)) =
          below.length ∧
        (∀ entry ∈ run, Text.encodeUtf8 start <+: Text.encodeUtf8 entry.nspace) ∧
        ∀ entry, entry ∈ below ∨ entry ∈ above →
          ¬ Text.encodeUtf8 start <+: Text.encodeUtf8 entry.nspace := by
  have hrep := represents nodes
  refine ⟨hrep, hrep.namespaceCount_eq, ?_⟩
  intro start
  simp only [Text.encodeUtf8_prefix_iff, ← Text.startsWith_iff]
  exact exists_run hrep.sorted start

example :
    let node (id nspace : String) : ModuleNode := ⟨id, id, nspace, .cls, "f"⟩
    let nodes := [node "q" "AX", node "y" "A.C", node "z" "Z", node "w" "A.C", node "v" "A.B"]
    (build nodes).entries.toList.map (fun entry => (entry.nspace, entry.positions)) =
      [("A.B", [4]), ("A.C", [1, 3]), ("AX", [0]), ("Z", [2])] := by
  cbv

end NamespaceIndex

end CodeAtlas
