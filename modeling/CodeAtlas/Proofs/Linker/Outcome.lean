import CodeAtlas.Proofs.Linker.Counts
import Mathlib.Algebra.Ring.Nat
import Mathlib.Data.List.Permutation

/-!
# The outcome of linking

A lookup in the index gives the first nodes of the list whose namespace has the start. Linking gives an
edge to each of those nodes for each placeholder, once, and its counts balance: every target of a
placeholder within the cap is an edge that was made or one that was there already.
-/

namespace CodeAtlas

open Keyed

namespace NamespaceIndex

/-- Neither the order of the namespaces nor the search in it shows in a lookup. -/
theorem prefixMatches_build_eq_filter (nodes : List ModuleNode) (start : String) (limit : Nat) :
    (build nodes).prefixMatches start limit =
      ((nodes.filter fun node => start.toList <+: node.nspace.toList).take limit).map (·.id) := by
  have hscan : scan nodes start =
      nodes.filter fun node => start.toList <+: node.nspace.toList := by
    apply List.filter_congr
    intro node _
    rw [Bool.eq_iff_iff, Text.startsWith_iff, decide_eq_true_iff]
  rw [prefixMatches_build, hscan]

example :
    let node (id nspace : String) : ModuleNode := ⟨id, id, nspace, .cls, "f"⟩
    let nodes := [node "q" "AX", node "y" "A.C", node "z" "Z", node "w" "A.C"]
    (build nodes).prefixMatches "A" 2 = ["q", "y"] := by
  cbv

end NamespaceIndex

/-- What linking makes of some placeholders, where a scan of the nodes tells what each stands for. -/
structure Linked (nodes : List ModuleNode) (cap : Nat) (placeholders : List Placeholder)
    (edges : List Edge) (stats : LinkStats) : Prop where
  edges_eq : edges = (placeholders.flatMap fun placeholder =>
    ((NamespaceIndex.scan nodes placeholder.imported).take cap).map fun node =>
      Edge.importing placeholder.source node.id).eraseDups
  edges_nodup : edges.Nodup
  placeholders_eq : stats.placeholders = placeholders.length
  resolved_eq : stats.resolved = edges.length
  unresolved_eq : stats.unresolved = placeholders.countP fun placeholder =>
    decide (NamespaceIndex.scan nodes placeholder.imported = [])
  truncated_eq : stats.truncated = placeholders.countP fun placeholder =>
    decide (cap < (NamespaceIndex.scan nodes placeholder.imported).length)
  balance : stats.resolved + stats.duplicates = (placeholders.map fun placeholder =>
    min cap (NamespaceIndex.scan nodes placeholder.imported).length).sum

theorem length_expansion (nodes : List ModuleNode) (cap : Nat) (placeholder : Placeholder) :
    (expansion nodes cap placeholder).length =
      min cap (NamespaceIndex.scan nodes placeholder.imported).length := by
  rw [expansion, List.length_map, List.length_take]

theorem resolved_add_duplicates (nodes : List ModuleNode) {cap : UInt64}
    (hcap : cap.toNat + 1 < 2 ^ 64) (placeholders : List Placeholder) :
    (link nodes cap placeholders).2.resolved + (link nodes cap placeholders).2.duplicates =
      (placeholders.flatMap (expansion nodes cap.toNat)).length := by
  have hle := (eraseDups_sublist (placeholders.flatMap (expansion nodes cap.toNat))).length_le
  rw [link_stats nodes hcap]
  exact Nat.add_sub_of_le hle

theorem link_outcome (nodes : List ModuleNode) {cap : UInt64} (hcap : cap.toNat + 1 < 2 ^ 64)
    (placeholders : List Placeholder) :
    Linked nodes cap.toNat placeholders (link nodes cap placeholders).1
      (link nodes cap placeholders).2 := by
  have hedges := link_edges nodes hcap placeholders
  have hstats := link_stats nodes hcap placeholders
  constructor
  case edges_eq => exact hedges
  case edges_nodup =>
    rw [hedges]
    exact nodup_eraseDups _
  case placeholders_eq => rw [hstats]
  case resolved_eq => rw [hstats, hedges]
  case unresolved_eq =>
    rw [hstats]
    rfl
  case truncated_eq =>
    rw [hstats]
    rfl
  case balance =>
    rw [resolved_add_duplicates nodes hcap, List.length_flatMap]
    simp only [length_expansion]

/-- Two nodes have one id, two imports overlap, one is asked for twice and one finds nothing; the cap cuts
two of them. -/
theorem link_outcome_overlapping :
    let node (id nspace : String) : ModuleNode := ⟨id, id, nspace, .cls, "f"⟩
    let nodes := [node "x" "AB", node "u" "Z", node "x" "A", node "y" "ABX", node "w" "AB"]
    let placeholders : List Placeholder :=
      [⟨"u", "A"⟩, ⟨"u", "AB"⟩, ⟨"u", "Q"⟩, ⟨"w", "Z"⟩, ⟨"u", "ABX"⟩, ⟨"w", "Z"⟩]
    let edges := [Edge.importing "u" "x", Edge.importing "u" "y", Edge.importing "w" "u"]
    let stats : LinkStats := ⟨6, 3, 4, 1, 2⟩
    (2 : UInt64).toNat + 1 < 2 ^ 64 ∧ link nodes 2 placeholders = (edges, stats) ∧
      Linked nodes 2 placeholders edges stats := by
  intro node nodes placeholders edges stats
  have hcap : (2 : UInt64).toNat + 1 < 2 ^ 64 := by decide
  have hlink : link nodes 2 placeholders = (edges, stats) := by
    cbv
  have hlinked := link_outcome nodes hcap placeholders
  rw [hlink] at hlinked
  exact ⟨hcap, hlink, hlinked⟩

end CodeAtlas
