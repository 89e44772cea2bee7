import CodeAtlas.Proofs.Linker.Import
import Mathlib.Data.List.Perm.Basic

/-!
# What linking counts

Every edge that a placeholder expands to is either made or counted as there already. Placeholders that
expand to nothing, or to more than the cap, are counted apart. Where none is cut, the counts and the
edges do not depend on the order of nodes and placeholders.
-/

namespace CodeAtlas

open Keyed

def isUnresolved (nodes : List ModuleNode) (placeholder : Placeholder) : Bool :=
  decide (NamespaceIndex.scan nodes placeholder.imported = [])

def isCut (nodes : List ModuleNode) (cap : Nat) (placeholder : Placeholder) : Bool :=
  decide (cap < (NamespaceIndex.scan nodes placeholder.imported).length)

namespace LinkState

/-- The counts of linking, with every expanded edge either made or there already. -/
structure Counts (offered unresolved truncated : Nat) (s : LinkState) : Prop where
  offered : s.edges.size + s.duplicates = offered
  unresolved : s.unresolved = unresolved
  truncated : s.truncated = truncated

namespace Counts

variable {offered unresolved truncated : Nat} {s : LinkState}

theorem empty : Counts 0 0 0 .empty := ⟨rfl, rfl, rfl⟩

theorem addEdge (h : Counts offered unresolved truncated s) (e : Edge) :
    Counts (offered + 1) unresolved truncated (s.addEdge e) := by
  have hoffered := h.offered
  rw [LinkState.addEdge]
  by_cases he : s.seen.contains e
  · rw [if_pos he]
    refine ⟨?_, h.unresolved, h.truncated⟩
    change s.edges.size + (s.duplicates + 1) = _
    omega
  · rw [if_neg he]
    refine ⟨?_, h.unresolved, h.truncated⟩
    change (s.edges.push e).size + s.duplicates = _
    rw [Array.size_push]
    omega

theorem addEdges (h : Counts offered unresolved truncated s) (source : String)
    (targets : List String) :
    Counts (offered + targets.length) unresolved truncated
      (targets.foldl (fun s target => s.addEdge (.importing source target)) s) := by
  induction targets generalizing offered s with
  | nil => exact h
  | cons target targets ih =>
    have hrun := ih (h.addEdge (.importing source target))
    rwa [Nat.add_right_comm, Nat.add_assoc] at hrun

theorem addPlaceholder (h : Counts offered unresolved truncated s) (nodes : List ModuleNode)
    {cap : UInt64} (hcap : cap.toNat + 1 < 2 ^ 64) (placeholder : Placeholder) :
    Counts (offered + (expansion nodes cap.toNat placeholder).length)
      (unresolved + [placeholder].countP (isUnresolved nodes))
      (truncated + [placeholder].countP (isCut nodes cap.toNat))
      (s.addPlaceholder (.build nodes) cap placeholder) := by
  rw [addPlaceholder_build nodes hcap, expansion_eq_map, List.length_map, List.countP_singleton,
    List.countP_singleton]
  simp only [isUnresolved, isCut, decide_eq_true_iff]
  by_cases hempty : NamespaceIndex.scan nodes placeholder.imported = []
  · rw [if_pos hempty, if_pos hempty, hempty, List.take_nil, List.length_nil,
      if_neg (Nat.not_lt_zero _)]
    exact ⟨h.offered, congrArg (· + 1) h.unresolved, h.truncated⟩
  · rw [if_neg hempty, if_neg hempty]
    apply addEdges
    by_cases hcut : cap.toNat < (NamespaceIndex.scan nodes placeholder.imported).length
    · rw [if_pos hcut, if_pos hcut]
      exact ⟨h.offered, h.unresolved, congrArg (· + 1) h.truncated⟩
    · rw [if_neg hcut, if_neg hcut]
      exact h

theorem addPlaceholders (h : Counts offered unresolved truncated s) (nodes : List ModuleNode)
    {cap : UInt64} (hcap : cap.toNat + 1 < 2 ^ 64) (placeholders : List Placeholder) :
    Counts (offered + (placeholders.flatMap (expansion nodes cap.toNat)).length)
      (unresolved + placeholders.countP (isUnresolved nodes))
      (truncated + placeholders.countP (isCut nodes cap.toNat))
      (placeholders.foldl (LinkState.addPlaceholder (.build nodes) cap) s) := by
  induction placeholders generalizing offered unresolved truncated s with
  | nil => exact h
  | cons placeholder placeholders ih =>
    have hrun := ih (h.addPlaceholder nodes hcap placeholder)
    rw [← List.singleton_append, List.countP_append, List.countP_append, List.flatMap_append,
      List.length_append, List.flatMap_singleton, ← Nat.add_assoc, ← Nat.add_assoc, ← Nat.add_assoc]
    exact hrun

end Counts

end LinkState

theorem link_stats (nodes : List ModuleNode) {cap : UInt64} (hcap : cap.toNat + 1 < 2 ^ 64)
    (placeholders : List Placeholder) :
    (link nodes cap placeholders).2 =
      { placeholders := placeholders.length
        resolved := (placeholders.flatMap (expansion nodes cap.toNat)).eraseDups.length
        duplicates := (placeholders.flatMap (expansion nodes cap.toNat)).length -
          (placeholders.flatMap (expansion nodes cap.toNat)).eraseDups.length
        unresolved := placeholders.countP (isUnresolved nodes)
        truncated := placeholders.countP (isCut nodes cap.toNat) } := by
  have hcounts := LinkState.Counts.empty.addPlaceholders nodes hcap placeholders
  have hedges := (LinkState.Offered.empty.addPlaceholders nodes hcap placeholders).edges
  rw [Nat.zero_add, Nat.zero_add, Nat.zero_add] at hcounts
  rw [List.nil_append] at hedges
  rw [link]
  generalize placeholders.foldl (LinkState.addPlaceholder (.build nodes) cap) .empty = s at *
  have hoffered := hcounts.offered
  rw [← Array.length_toList, hedges] at hoffered
  rw [LinkStats.mk.injEq, ← Array.length_toList, hedges]
  exact ⟨rfl, rfl, by omega, hcounts.unresolved, hcounts.truncated⟩

section Order

variable {nodes nodes' : List ModuleNode} {placeholders placeholders' : List Placeholder}

theorem scan_perm (h : nodes.Perm nodes') (start : String) :
    (NamespaceIndex.scan nodes start).Perm (NamespaceIndex.scan nodes' start) :=
  h.filter _

theorem expansion_perm (h : nodes.Perm nodes') {cap : Nat} {placeholder : Placeholder}
    (hcut : ¬ isCut nodes cap placeholder) :
    (expansion nodes cap placeholder).Perm (expansion nodes' cap placeholder) := by
  have hscan := scan_perm h placeholder.imported
  rw [isCut, decide_eq_true_iff, Nat.not_lt] at hcut
  rw [expansion, expansion, List.take_of_length_le hcut,
    List.take_of_length_le (hscan.length_eq ▸ hcut)]
  exact hscan.map _

theorem isUnresolved_eq_of_perm (h : nodes.Perm nodes') :
    isUnresolved nodes = isUnresolved nodes' := by
  funext placeholder
  have hscan := scan_perm h placeholder.imported
  rw [isUnresolved, isUnresolved, decide_eq_decide, ← List.length_eq_zero_iff,
    ← List.length_eq_zero_iff, hscan.length_eq]

theorem isCut_eq_of_perm (h : nodes.Perm nodes') (cap : Nat) :
    isCut nodes cap = isCut nodes' cap := by
  funext placeholder
  rw [isCut, isCut, (scan_perm h placeholder.imported).length_eq]

/-- Where nothing is cut, nodes and placeholders in another order are linked by the same edges in
another order, and counted alike. -/
theorem link_perm (hnodes : nodes.Perm nodes') (hplaceholders : placeholders.Perm placeholders')
    {cap : UInt64} (hcap : cap.toNat + 1 < 2 ^ 64)
    (hcut : (link nodes cap placeholders).2.truncated = 0) :
    (link nodes cap placeholders).1.Perm (link nodes' cap placeholders').1 ∧
      (link nodes cap placeholders).2 = (link nodes' cap placeholders').2 := by
  rw [link_stats nodes hcap, List.countP_eq_zero] at hcut
  have hexpanded : (placeholders.flatMap (expansion nodes cap.toNat)).Perm
      (placeholders'.flatMap (expansion nodes' cap.toNat)) :=
    hplaceholders.flatMap fun placeholder hp => expansion_perm hnodes (hcut placeholder hp)
  constructor
  · rw [link_edges nodes hcap, link_edges nodes' hcap]
    exact eraseDups_perm hexpanded
  · rw [link_stats nodes hcap, link_stats nodes' hcap, hexpanded.length_eq,
      (eraseDups_perm hexpanded).length_eq, hplaceholders.length_eq,
      isUnresolved_eq_of_perm hnodes, isCut_eq_of_perm hnodes, hplaceholders.countP_eq,
      hplaceholders.countP_eq]

end Order

end CodeAtlas
