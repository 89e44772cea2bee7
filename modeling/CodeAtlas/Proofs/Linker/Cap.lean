import CodeAtlas.Proofs.Linker.Counts
import Mathlib.Data.List.Permutation

/-!
# Linking under another cap

Under a greater cap a placeholder stands for more nodes and never for fewer, so every edge stays,
though another placeholder may now be the first to stand for it. The greatest cap of all has no
successor in its width. No target is asked for under it, and every placeholder is left unresolved.
-/

namespace CodeAtlas

/-- The second of two outcomes has every edge of the first, and leaves the same number of placeholders
unresolved. -/
structure LinkedFurther (first second : List Edge × LinkStats) : Prop where
  edges_subset : first.1 ⊆ second.1
  unresolved_eq : first.2.unresolved = second.2.unresolved
  resolved_le : first.2.resolved ≤ second.2.resolved
  truncated_le : second.2.truncated ≤ first.2.truncated

section Wider

variable {low high : Nat} (hle : low ≤ high) (nodes : List ModuleNode)

include hle

theorem expansion_subset (placeholder : Placeholder) :
    expansion nodes low placeholder ⊆ expansion nodes high placeholder :=
  List.map_subset _ (List.take_subset_take_left _ hle)

theorem flatMap_expansion_subset (placeholders : List Placeholder) :
    placeholders.flatMap (expansion nodes low) ⊆ placeholders.flatMap (expansion nodes high) := by
  intro e he
  obtain ⟨placeholder, hmem, hexpansion⟩ := List.mem_flatMap.mp he
  exact List.mem_flatMap.mpr ⟨placeholder, hmem, expansion_subset hle nodes placeholder hexpansion⟩

theorem isCut_of_le {placeholder : Placeholder} (hcut : isCut nodes high placeholder) :
    isCut nodes low placeholder :=
  decide_eq_true (hle.trans_lt (of_decide_eq_true hcut))

end Wider

/-- First occurrences may move from one placeholder to another, so that the edges are compared as sets
without repeats, and not in their order. -/
theorem linkedFurther_of_le {low high : UInt64} (hle : low ≤ high) (hhigh : high.toNat + 1 < 2 ^ 64)
    (nodes : List ModuleNode) (placeholders : List Placeholder) :
    LinkedFurther (link nodes low placeholders) (link nodes high placeholders) := by
  have hle' : low.toNat ≤ high.toNat := UInt64.le_iff_toNat_le.mp hle
  have hlow : low.toNat + 1 < 2 ^ 64 := by omega
  have hsubset : (placeholders.flatMap (expansion nodes low.toNat)).eraseDups ⊆
      (placeholders.flatMap (expansion nodes high.toNat)).eraseDups := by
    intro e he
    rw [List.mem_eraseDups] at he ⊢
    exact flatMap_expansion_subset hle' nodes placeholders he
  constructor
  case edges_subset =>
    rw [link_edges nodes hlow, link_edges nodes hhigh]
    exact hsubset
  case unresolved_eq => rw [link_stats nodes hlow, link_stats nodes hhigh]
  case resolved_le =>
    rw [link_stats nodes hlow, link_stats nodes hhigh]
    exact (Keyed.nodup_eraseDups _).length_le_of_subset hsubset
  case truncated_le =>
    rw [link_stats nodes hlow, link_stats nodes hhigh]
    exact List.countP_mono_left fun placeholder _ hcut => isCut_of_le hle' nodes hcut

theorem NamespaceIndex.prefixMatches_zero (index : NamespaceIndex) (start : String) :
    index.prefixMatches start 0 = [] := by
  rw [prefixMatches, List.take_zero, List.filterMap_nil]

section Greatest

variable {cap : UInt64} (hcap : cap.toNat + 1 = 2 ^ 64)

include hcap

theorem toNat_add_one_of_greatest : (cap + 1).toNat = 0 := by
  rw [UInt64.toNat_add, UInt64.toNat_one, hcap, Nat.mod_self]

theorem LinkState.addPlaceholder_of_greatest (index : NamespaceIndex) (s : LinkState)
    (placeholder : Placeholder) :
    s.addPlaceholder index cap placeholder = { s with unresolved := s.unresolved + 1 } := by
  rw [addPlaceholder, toNat_add_one_of_greatest hcap, NamespaceIndex.prefixMatches_zero]
  rfl

theorem LinkState.addPlaceholders_of_greatest (index : NamespaceIndex) (s : LinkState)
    (placeholders : List Placeholder) :
    placeholders.foldl (addPlaceholder index cap) s =
      { s with unresolved := s.unresolved + placeholders.length } := by
  induction placeholders generalizing s with
  | nil => rfl
  | cons placeholder placeholders ih =>
    rw [List.foldl_cons, addPlaceholder_of_greatest hcap, ih, List.length_cons, Nat.add_assoc,
      Nat.add_comm 1]

/-- The sum with one is zero, and so is the number of targets that are asked for. -/
theorem link_of_greatest (nodes : List ModuleNode) (placeholders : List Placeholder) :
    link nodes cap placeholders =
      ([], { placeholders := placeholders.length, resolved := 0, duplicates := 0,
             unresolved := placeholders.length, truncated := 0 }) := by
  rw [link, LinkState.addPlaceholders_of_greatest hcap, LinkState.empty, Nat.zero_add]
  rfl

end Greatest

/-- Raising the cap only adds edges, unless it is raised to the greatest cap: nothing is linked then. -/
theorem link_raised (nodes : List ModuleNode) (placeholders : List Placeholder) {low high : UInt64}
    (hle : low ≤ high) :
    (high.toNat + 1 < 2 ^ 64 →
      LinkedFurther (link nodes low placeholders) (link nodes high placeholders)) ∧
    (high.toNat + 1 = 2 ^ 64 →
      link nodes high placeholders =
        ([], { placeholders := placeholders.length, resolved := 0, duplicates := 0,
               unresolved := placeholders.length, truncated := 0 })) :=
  ⟨fun hhigh => linkedFurther_of_le hle hhigh nodes placeholders,
    fun hhigh => link_of_greatest hhigh nodes placeholders⟩

/-- Under the lower cap the second placeholder is the first to stand for `y`, under the higher one the
first is. -/
theorem link_raised_moved_edge :
    let node (id nspace : String) : ModuleNode := ⟨id, id, nspace, .cls, "f"⟩
    let nodes := [node "x" "A", node "y" "AB", node "z" "A"]
    let placeholders : List Placeholder := [⟨"u", "A"⟩, ⟨"u", "AB"⟩, ⟨"u", "B"⟩]
    let first : List Edge × LinkStats :=
      ([.importing "u" "x", .importing "u" "y"], ⟨3, 2, 0, 1, 1⟩)
    let second : List Edge × LinkStats :=
      ([.importing "u" "x", .importing "u" "y", .importing "u" "z"], ⟨3, 3, 1, 1, 0⟩)
    (1 : UInt64) ≤ 3 ∧ (3 : UInt64).toNat + 1 < 2 ^ 64 ∧ link nodes 1 placeholders = first ∧
      link nodes 3 placeholders = second ∧ LinkedFurther first second := by
  intro node nodes placeholders first second
  have hle : (1 : UInt64) ≤ 3 := by decide
  have hhigh : (3 : UInt64).toNat + 1 < 2 ^ 64 := by decide
  have hfirst : link nodes 1 placeholders = first := by
    cbv
  have hsecond : link nodes 3 placeholders = second := by
    cbv
  have hfurther := (link_raised nodes placeholders hle).1 hhigh
  rw [hfirst, hsecond] at hfurther
  exact ⟨hle, hhigh, hfirst, hsecond, hfurther⟩

/-- An edge that is made under the cap one is not made under the greatest cap. -/
theorem greatest_cap_links_nothing :
    let nodes : List ModuleNode := [⟨"x", "X", "A", .cls, "f"⟩]
    let placeholders : List Placeholder := [⟨"u", "A"⟩]
    (1 : UInt64) ≤ 18446744073709551615 ∧
      link nodes 1 placeholders = ([.importing "u" "x"], ⟨1, 1, 0, 0, 0⟩) ∧
      link nodes 18446744073709551615 placeholders = ([], ⟨1, 0, 0, 1, 0⟩) ∧
      ¬ LinkedFurther (link nodes 1 placeholders) (link nodes 18446744073709551615 placeholders) := by
  intro nodes placeholders
  have hone : link nodes 1 placeholders = ([.importing "u" "x"], ⟨1, 1, 0, 0, 0⟩) := by
    cbv
  have hgreatest : link nodes 18446744073709551615 placeholders = ([], ⟨1, 0, 0, 1, 0⟩) :=
    link_of_greatest (by decide) nodes placeholders
  refine ⟨by decide, hone, hgreatest, ?_⟩
  intro hfurther
  have hresolved := hfurther.resolved_le
  rw [hone, hgreatest] at hresolved
  exact absurd hresolved (by decide)

end CodeAtlas
