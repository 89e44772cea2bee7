import CodeAtlas.Proofs.Store.Batch
import CodeAtlas.Proofs.Store.Tables
import CodeAtlas.Proofs.Text.LowerCase

/-!
# What a search finds

A query and the names it is looked for in are lower-cased apart. Wherever the query stands in a name, it
is found, unless one of its capital sigmas ends a word there and not in the query alone, or the other way
round.
-/

namespace CodeAtlas

/-- The query stands in the name or in the namespace, its capital sigmas ending words as in the query. -/
def ModuleNode.Has (query : String) (node : ModuleNode) : Prop :=
  Text.StandsIn query.toList node.name.toList ∨ Text.StandsIn query.toList node.nspace.toList

theorem ModuleNode.has_of_infix {query : String} {node : ModuleNode} (hquery : 'Σ' ∉ query.toList)
    (h : query.toList <:+: node.name.toList ∨ query.toList <:+: node.nspace.toList) :
    node.Has query :=
  h.imp (Text.standsIn_of_infix · hquery) (Text.standsIn_of_infix · hquery)

theorem Contents.hit_of_has {query : String} {node : ModuleNode} (h : node.Has query) :
    hit (Text.lowerChars query.toList) node = true := by
  rw [hit, Bool.or_eq_true, Text.occursIn_iff, Text.occursIn_iff]
  exact h.imp Text.StandsIn.lowerChars_infix Text.StandsIn.lowerChars_infix

theorem mem_take_filter_iff {α : Type} (p : α → Bool) {before after : List α} {x : α}
    (hnodup : (before ++ x :: after).Nodup) (k : Nat) :
    x ∈ ((before ++ x :: after).filter p).take k ↔ p x = true ∧ before.countP p < k := by
  have hbefore : x ∉ before := (List.nodup_middle.mp hnodup).notMem ∘ List.mem_append_left after
  by_cases hx : p x = true
  · have htake : x ∉ (before.filter p).take k := by
      intro hmem
      exact hbefore (List.mem_of_mem_filter (List.mem_of_mem_take hmem))
    rw [List.filter_append, List.filter_cons_of_pos hx, List.take_append, List.mem_append,
      or_iff_right htake, List.countP_eq_length_filter, and_iff_right hx]
    cases hroom : k - (before.filter p).length with
    | zero =>
      rw [List.take_zero]
      exact iff_of_false List.not_mem_nil (by omega)
    | succ n => exact iff_of_true List.mem_cons_self (by omega)
  · refine iff_of_false ?_ (fun h => hx h.1)
    intro hmem
    exact hx (List.of_mem_filter (List.mem_of_mem_take hmem))

/-- What a search finds among the nodes of a store. -/
structure Searched (query : String) (limit : Nat) (nodes found : List ModuleNode) : Prop where
  sublist : found.Sublist nodes
  mem_found_iff : ∀ before node after, nodes = before ++ node :: after →
    (node ∈ found ↔ Contents.hit (Text.lowerChars query.toList) node = true ∧
      before.countP (Contents.hit (Text.lowerChars query.toList)) < min limit 50)
  finds : ∀ before node after, nodes = before ++ node :: after → node.Has query →
    node ∈ found ∨ min limit 50 ≤ before.countP (Contents.hit (Text.lowerChars query.toList))
  /-- Without a capital sigma the query has to stand there and no more. -/
  finds_infix : 'Σ' ∉ query.toList → ∀ before node after, nodes = before ++ node :: after →
    query.toList <:+: node.name.toList ∨ query.toList <:+: node.nspace.toList →
    node ∈ found ∨ min limit 50 ≤ before.countP (Contents.hit (Text.lowerChars query.toList))

theorem Contents.WellFormed.searched {c : Contents} (h : c.WellFormed) (query : String)
    (limit : Nat) : Searched query limit c.nodes (c.search query limit) := by
  have hmem : ∀ before node after, c.nodes = before ++ node :: after →
      (node ∈ c.search query limit ↔ hit (Text.lowerChars query.toList) node = true ∧
        before.countP (hit (Text.lowerChars query.toList)) < min limit 50) := by
    intro before node after hnodes
    have hnodup : c.nodes.Nodup := h.ids_nodup.of_map
    rw [hnodes] at hnodup
    rw [search, hnodes]
    exact mem_take_filter_iff _ hnodup _
  have hfinds : ∀ before node after, c.nodes = before ++ node :: after → node.Has query →
      node ∈ c.search query limit ∨
        min limit 50 ≤ before.countP (hit (Text.lowerChars query.toList)) := by
    intro before node after hnodes hnode
    rw [hmem before node after hnodes, and_iff_right (hit_of_has hnode)]
    exact Nat.lt_or_ge _ _
  constructor
  case sublist => exact (List.take_sublist _ _).trans List.filter_sublist
  case mem_found_iff => exact hmem
  case finds => exact hfinds
  case finds_infix =>
    intro hquery before node after hnodes hnode
    exact hfinds before node after hnodes (ModuleNode.has_of_infix hquery hnode)

/-- Both stores find whatever has the query, in the order of storage, up to the limit. -/
theorem search_finds (calls : List Call) (query : String) (limit : Nat) :
    ((Call.after MemoryStore.fresh calls).schemaReady = true →
      ∃ found, GraphStore.searchNodes query limit (Call.after MemoryStore.fresh calls) = .ok found ∧
        Searched query limit (Call.after MemoryStore.fresh calls).graph.nodes.toList found) ∧
    (∀ tables, (Call.after TableStore.fresh calls).tables = some tables →
      ∃ nodes found, tables.modules.select.mapM NodeRow.toNode = .ok nodes ∧
        GraphStore.searchNodes query limit (Call.after TableStore.fresh calls) = .ok found ∧
        Searched query limit nodes found) := by
  constructor
  · intro hready
    have h := MemoryStore.shows_after calls hready
    exact ⟨_, (MemoryStore.Shows.simulation.searchNodes h query limit).eq_ok,
      h.wellFormed.searched query limit⟩
  · intro tables htables
    obtain ⟨c, hholds, h⟩ := TableStore.shows_after calls htables
    have hnodes : tables.modules.select.mapM NodeRow.toNode = .ok c.nodes := by
      rw [hholds.modules.select_eq, mapM_map_ok NodeRow.toNode_ofNode]
    exact ⟨c.nodes, _, hnodes, (TableStore.Shows.simulation.searchNodes h query limit).eq_ok,
      hholds.wellFormed.searched query limit⟩

theorem search_finds_behind_match :
    let a : ModuleNode := ⟨"a", "Β", "ΟΔΟΣ.Β", .cls, "a.txt"⟩
    let b : ModuleNode := ⟨"b", "İstanbul", "Straße.ΟΔΟΣ.Βİ", .cls, "b.txt"⟩
    let calls : List Call := [.ensureSchema, .upsert (.node a), .upsert (.node b)]
    let tables : Tables :=
      { modules := ⟨[⟨1, .ofNode a⟩, ⟨2, .ofNode b⟩]⟩, edges := .empty, packages := .empty }
    (Call.after MemoryStore.fresh calls).schemaReady = true ∧
      (Call.after TableStore.fresh calls).tables = some tables ∧
      (∃ found, GraphStore.searchNodes "ΔΟΣ.Β" 2 (Call.after MemoryStore.fresh calls) = .ok found ∧
        b ∈ found) ∧
      ∃ found, GraphStore.searchNodes "ΔΟΣ.Β" 2 (Call.after TableStore.fresh calls) = .ok found ∧
        b ∈ found := by
  intro a b calls tables
  have hready : (Call.after MemoryStore.fresh calls).schemaReady = true := rfl
  have htables : (Call.after TableStore.fresh calls).tables = some tables := rfl
  have hhas : b.Has "ΔΟΣ.Β" := .inr ⟨"Straße.Ο".toList, "İ".toList, by decide +kernel⟩
  have hroom : ¬ min 2 50 ≤ [a].countP (Contents.hit (Text.lowerChars "ΔΟΣ.Β".toList)) :=
    fun h => absurd (h.trans List.countP_le_length) (by decide)
  obtain ⟨hmemory, hrows⟩ := search_finds calls "ΔΟΣ.Β" 2
  refine ⟨hready, htables, ?_, ?_⟩
  · obtain ⟨found, hfound, hsearched⟩ := hmemory hready
    have hnodes : (Call.after MemoryStore.fresh calls).graph.nodes.toList = [a] ++ b :: [] :=
      congrArg Contents.nodes (MemoryStore.shows_after_upserts MemoryStore.Shows.ready
        [.node a, .node b]).graph_contents
    exact ⟨found, hfound, (hsearched.finds _ _ _ hnodes hhas).resolve_right hroom⟩
  · obtain ⟨nodes, found, hnodes, hfound, hsearched⟩ := hrows tables htables
    have hread : tables.modules.select.mapM NodeRow.toNode = .ok ([a] ++ b :: []) := by
      rw [Table.select, List.mergeSort_of_pairwise (by decide)]
      exact mapM_map_ok NodeRow.toNode_ofNode [a, b]
    rw [hread, Except.ok.injEq] at hnodes
    exact ⟨found, hfound, (hsearched.finds _ _ _ hnodes.symm hhas).resolve_right hroom⟩

/-- The capital sigma ends a word in the query, and in the namespace, before a dot and a letter, it does
not. -/
theorem search_misses_sigma :
    let node : ModuleNode := ⟨"a", "A", "ΟΔΟΣ.Β", .cls, "a.txt"⟩
    let calls : List Call := [.ensureSchema, .upsert (.node node)]
    "ΟΔΟΣ".toList <:+: node.nspace.toList ∧
      GraphStore.getNode "a" (Call.after MemoryStore.fresh calls) = .ok (some node) ∧
      GraphStore.searchNodes "ΟΔΟΣ" 50 (Call.after MemoryStore.fresh calls) = .ok [] ∧
      GraphStore.getNode "a" (Call.after TableStore.fresh calls) = .ok (some node) ∧
      GraphStore.searchNodes "ΟΔΟΣ" 50 (Call.after TableStore.fresh calls) = .ok [] := by
  intro node calls
  have hmemory := MemoryStore.Shows.simulation.after MemoryStore.Shows.fresh calls
  have htables := TableStore.Shows.simulation.after TableStore.Shows.missing calls
  have hsearch : (⟨[node], [], []⟩ : Contents).search "ΟΔΟΣ" 50 = [] := by decide +kernel
  refine ⟨⟨[], ".Β".toList, by decide⟩, (MemoryStore.Shows.simulation.getNode hmemory "a").eq_ok, ?_,
    (TableStore.Shows.simulation.getNode htables "a").eq_ok, ?_⟩
  · rw [← hsearch]
    exact (MemoryStore.Shows.simulation.searchNodes hmemory "ΟΔΟΣ" 50).eq_ok
  · rw [← hsearch]
    exact (TableStore.Shows.simulation.searchNodes htables "ΟΔΟΣ" 50).eq_ok

end CodeAtlas
