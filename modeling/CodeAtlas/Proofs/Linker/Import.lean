import CodeAtlas.Linker.Import
import CodeAtlas.Proofs.Keyed.Merge
import CodeAtlas.Proofs.Linker.NamespaceIndex

/-!
# Linking against expansion

A placeholder expands to an edge for each of the first nodes that a scan finds. Linking makes the
edges of all expansions, each where it first occurs.
-/

namespace CodeAtlas

open Keyed

/-- The edges that a placeholder stands for, with repeats if nodes repeat. -/
def expansion (nodes : List ModuleNode) (cap : Nat) (placeholder : Placeholder) : List Edge :=
  ((NamespaceIndex.scan nodes placeholder.imported).take cap).map fun node =>
    .importing placeholder.source node.id

namespace LinkState

structure Offered (offered : List Edge) (s : LinkState) : Prop where
  edges : s.edges.toList = offered.eraseDups
  seen : ∀ e, e ∈ s.seen ↔ e ∈ offered

theorem Offered.empty : Offered [] .empty where
  edges := rfl
  seen e := by simp [LinkState.empty]

theorem Offered.addEdge {offered : List Edge} {s : LinkState} (h : Offered offered s) (e : Edge) :
    Offered (offered ++ [e]) (s.addEdge e) := by
  have hseen : s.seen.contains e = decide (e ∈ offered) := by
    rw [Bool.eq_iff_iff, ← Std.HashSet.mem_iff_contains, h.seen, decide_eq_true_iff]
  by_cases he : e ∈ offered
  · have hstep : s.addEdge e = { s with duplicates := s.duplicates + 1 } := by
      rw [LinkState.addEdge, hseen, decide_eq_true he, if_pos rfl]
    rw [hstep]
    constructor
    · rw [eraseDups_concat, if_pos he]
      exact h.edges
    · intro e'
      rw [h.seen, List.mem_append, List.mem_singleton]
      exact ⟨Or.inl, fun hor => hor.elim id fun heq => heq ▸ he⟩
  · have hstep : s.addEdge e =
        { s with seen := s.seen.insert e, edges := s.edges.push e } := by
      rw [LinkState.addEdge, hseen, decide_eq_false he, if_neg Bool.false_ne_true]
    rw [hstep]
    constructor
    · rw [eraseDups_concat, if_neg he, Array.toList_push, h.edges]
    · intro e'
      rw [Std.HashSet.mem_insert, h.seen, List.mem_append, List.mem_singleton, beq_iff_eq,
        or_comm, eq_comm]

theorem Offered.addEdges {offered : List Edge} {s : LinkState} (h : Offered offered s)
    (source : String) (targets : List String) :
    Offered (offered ++ targets.map (.importing source))
      (targets.foldl (fun s target => s.addEdge (.importing source target)) s) := by
  induction targets generalizing offered s with
  | nil => simpa using h
  | cons target targets ih => simpa using ih (h.addEdge (.importing source target))

theorem expansion_eq_map (nodes : List ModuleNode) (cap : Nat) (placeholder : Placeholder) :
    expansion nodes cap placeholder =
      (((NamespaceIndex.scan nodes placeholder.imported).take cap).map (·.id)).map
        (.importing placeholder.source) := by
  rw [List.map_map]
  rfl

/-- One target more than the cap shows whether a scan would find more than the cap. -/
theorem addPlaceholder_build (nodes : List ModuleNode) {cap : UInt64} (hcap : cap.toNat + 1 < 2 ^ 64)
    (s : LinkState) (placeholder : Placeholder) :
    s.addPlaceholder (.build nodes) cap placeholder =
      if NamespaceIndex.scan nodes placeholder.imported = [] then
        { s with unresolved := s.unresolved + 1 }
      else
        (((NamespaceIndex.scan nodes placeholder.imported).take cap.toNat).map (·.id)).foldl
          (fun s target => s.addEdge (.importing placeholder.source target))
          (if cap.toNat < (NamespaceIndex.scan nodes placeholder.imported).length then
            { s with truncated := s.truncated + 1 } else s) := by
  have hlimit : (cap + 1).toNat = cap.toNat + 1 := by
    rw [UInt64.toNat_add]
    exact Nat.mod_eq_of_lt hcap
  simp only [LinkState.addPlaceholder, NamespaceIndex.prefixMatches_build, hlimit]
  generalize NamespaceIndex.scan nodes placeholder.imported = found
  have hcut : ((found.take (cap.toNat + 1)).map (·.id)).take cap.toNat =
      (found.take cap.toNat).map (·.id) := by
    rw [← List.map_take, List.take_take, Nat.min_eq_left (Nat.le_succ _)]
  have hempty : ((found.take (cap.toNat + 1)).map (·.id)).isEmpty = true ↔ found = [] := by
    simp
  have hmore : cap.toNat < ((found.take (cap.toNat + 1)).map (·.id)).length ↔
      cap.toNat < found.length := by
    rw [List.length_map, List.length_take]
    omega
  simp only [hcut, hempty, hmore]

theorem Offered.addPlaceholder {offered : List Edge} {s : LinkState} (h : Offered offered s)
    (nodes : List ModuleNode) {cap : UInt64} (hcap : cap.toNat + 1 < 2 ^ 64)
    (placeholder : Placeholder) :
    Offered (offered ++ expansion nodes cap.toNat placeholder)
      (s.addPlaceholder (.build nodes) cap placeholder) := by
  rw [addPlaceholder_build nodes hcap]
  by_cases hempty : NamespaceIndex.scan nodes placeholder.imported = []
  · have hnone : expansion nodes cap.toNat placeholder = [] := by
      rw [expansion, hempty, List.take_nil, List.map_nil]
    rw [if_pos hempty, hnone, List.append_nil]
    exact ⟨h.edges, h.seen⟩
  · rw [if_neg hempty, expansion_eq_map]
    apply Offered.addEdges
    -- The count of cut placeholders does not matter to the edges.
    split
    · exact ⟨h.edges, h.seen⟩
    · exact h

theorem Offered.addPlaceholders {offered : List Edge} {s : LinkState} (h : Offered offered s)
    (nodes : List ModuleNode) {cap : UInt64} (hcap : cap.toNat + 1 < 2 ^ 64)
    (placeholders : List Placeholder) :
    Offered (offered ++ placeholders.flatMap (expansion nodes cap.toNat))
      (placeholders.foldl (LinkState.addPlaceholder (.build nodes) cap) s) := by
  induction placeholders generalizing offered s with
  | nil => simpa using h
  | cons placeholder placeholders ih =>
    simpa using ih (h.addPlaceholder nodes hcap placeholder)

end LinkState

theorem link_edges (nodes : List ModuleNode) {cap : UInt64} (hcap : cap.toNat + 1 < 2 ^ 64)
    (placeholders : List Placeholder) :
    (link nodes cap placeholders).1 =
      (placeholders.flatMap (expansion nodes cap.toNat)).eraseDups := by
  have h := LinkState.Offered.empty.addPlaceholders nodes hcap placeholders
  rw [List.nil_append] at h
  exact h.edges

end CodeAtlas
