import CodeAtlas.CSharp.Tree
import Mathlib.Data.List.Basic

/-!
# Ways through a syntax tree

The way to a node leads through the nodes around it. All ways of a tree can be listed in the order in
which the nodes begin in the source, so that a node comes before what is nested in it.
-/

namespace CodeAtlas.CSharp

/-- A node, with the nodes before it on its level. -/
structure Entry where
  before : List SyntaxNode
  node : SyntaxNode

/-- The nodes around a node, the outermost first, and at the end that node itself. -/
abbrev Way := List Entry

inductive IsWay : List SyntaxNode → Way → Prop where
  | here (before : List SyntaxNode) (node : SyntaxNode) (after : List SyntaxNode) :
      IsWay (before ++ node :: after) [⟨before, node⟩]
  | inside (before : List SyntaxNode) {node : SyntaxNode} {way : Way} (after : List SyntaxNode)
      (hway : IsWay node.children way) : IsWay (before ++ node :: after) (⟨before, node⟩ :: way)

/-- Where a way leads: which place its node has on each level. -/
def Way.position (way : Way) : List Nat := way.map fun e => e.before.length

def waysFrom (before : List SyntaxNode) : List SyntaxNode → List Way
  | [] => []
  | node :: rest =>
    [⟨before, node⟩] :: ((waysFrom [] node.children).map (⟨before, node⟩ :: ·) ++
      waysFrom (before ++ [node]) rest)
termination_by nodes => sizeOf nodes
decreasing_by
  · have hlt := node.sizeOf_children_lt
    simp only [List.cons.sizeOf_spec]
    omega
  · simp only [List.cons.sizeOf_spec]
    omega

theorem waysFrom_append (before xs ys : List SyntaxNode) :
    waysFrom before (xs ++ ys) = waysFrom before xs ++ waysFrom (before ++ xs) ys := by
  induction xs generalizing before with
  | nil => simp [waysFrom]
  | cons node xs ih =>
    rw [List.cons_append, waysFrom, waysFrom, ih]
    simp

section Complete

theorem isWay_of_mem_waysFrom {before nodes : List SyntaxNode} {way : Way}
    (h : way ∈ waysFrom before nodes) : IsWay (before ++ nodes) way := by
  fun_induction waysFrom before nodes generalizing way with
  | case1 => cases h
  | case2 before node rest ihInside ihRest =>
    rcases List.mem_cons.mp h with rfl | h
    · exact IsWay.here before node rest
    · rcases List.mem_append.mp h with hinside | hrest
      · obtain ⟨inner, hinner, rfl⟩ := List.mem_map.mp hinside
        exact IsWay.inside before rest (ihInside hinner)
      · simpa using ihRest hrest

theorem mem_waysFrom_of_isWay {nodes : List SyntaxNode} {way : Way} (h : IsWay nodes way) :
    way ∈ waysFrom [] nodes := by
  induction h with
  | here before node after => simp [waysFrom_append, waysFrom]
  | inside before after _ ih => simp [waysFrom_append, waysFrom, ih]

theorem mem_waysFrom_iff (nodes : List SyntaxNode) (way : Way) :
    way ∈ waysFrom [] nodes ↔ IsWay nodes way :=
  ⟨isWay_of_mem_waysFrom, mem_waysFrom_of_isWay⟩

end Complete

section Sorted

theorem exists_head_of_mem_waysFrom {before nodes : List SyntaxNode} {way : Way}
    (h : way ∈ waysFrom before nodes) :
    ∃ e rest between, way = e :: rest ∧ e.before = before ++ between ∧ e.node ∈ nodes := by
  fun_induction waysFrom before nodes generalizing way with
  | case1 => cases h
  | case2 before node rest ihInside ihRest =>
    rcases List.mem_cons.mp h with rfl | h
    · exact ⟨⟨before, node⟩, [], [], rfl, by simp, by simp⟩
    · rcases List.mem_append.mp h with hinside | hrest
      · obtain ⟨inner, -, rfl⟩ := List.mem_map.mp hinside
        exact ⟨⟨before, node⟩, inner, [], rfl, by simp, by simp⟩
      · obtain ⟨e, inner, between, rfl, hbefore, hnode⟩ := ihRest hrest
        exact ⟨e, inner, node :: between, rfl, by simp [hbefore], List.mem_cons_of_mem node hnode⟩

theorem ne_nil_of_mem_waysFrom {before nodes : List SyntaxNode} {way : Way}
    (h : way ∈ waysFrom before nodes) : way ≠ [] := by
  obtain ⟨e, rest, between, rfl, -⟩ := exists_head_of_mem_waysFrom h
  simp

/-- The ways are listed in source order, and none of them twice. -/
theorem pairwise_waysFrom (before nodes : List SyntaxNode) :
    (waysFrom before nodes).Pairwise fun v w => v.position < w.position := by
  fun_induction waysFrom before nodes with
  | case1 => exact List.Pairwise.nil
  | case2 before node rest ihInside ihRest =>
    have hlater : ∀ w ∈ waysFrom (before ++ [node]) rest, ∀ inner : List Nat,
        before.length :: inner < w.position := by
      intro w hw inner
      obtain ⟨e, rest, between, rfl, hbefore, -⟩ := exists_head_of_mem_waysFrom hw
      have hlt : before.length < e.before.length := by
        simp only [hbefore, List.length_append, List.length_singleton]
        omega
      exact List.cons_lt_cons_iff.mpr (Or.inl hlt)
    rw [List.pairwise_cons, List.pairwise_append, List.pairwise_map]
    refine ⟨?_, ?_, ihRest, ?_⟩
    · intro w hw
      rcases List.mem_append.mp hw with hinside | hrest
      · obtain ⟨inner, hinner, rfl⟩ := List.mem_map.mp hinside
        obtain ⟨e, rest, between, rfl, -⟩ := exists_head_of_mem_waysFrom hinner
        exact List.cons_lt_cons_iff.mpr (Or.inr ⟨rfl, List.nil_lt_cons _ _⟩)
      · exact hlater w hrest []
    · apply ihInside.imp
      intro v w hlt
      exact List.cons_lt_cons_iff.mpr (Or.inr ⟨rfl, hlt⟩)
    · intro v hv w hw
      obtain ⟨inner, -, rfl⟩ := List.mem_map.mp hv
      exact hlater w hw (Way.position inner)

end Sorted

end CodeAtlas.CSharp
