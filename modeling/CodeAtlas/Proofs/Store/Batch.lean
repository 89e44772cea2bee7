import CodeAtlas.Proofs.Store.History

/-!
# What a batch does

A batch succeeds on every store with a schema and leaves what its writes leave. Its nodes all come
before its edges, so which of its edges are stored depends on the ids that are there before and on
those of the batch, and not on how many of its nodes were written already.
-/

namespace CodeAtlas

open Keyed

namespace History

variable (ns : List ModuleNode) (es : List Edge) (ps : List Package)

theorem nodes_of_batch : nodes (GraphStore.batch ns es ps) = ns := by
  simp [GraphStore.batch, nodes, List.filterMap_map, Function.comp_def, node?]

theorem edges_of_batch : edges (GraphStore.batch ns es ps) = es := by
  simp [GraphStore.batch, edges, List.filterMap_map, Function.comp_def, edge?]

theorem packages_of_batch : packages (GraphStore.batch ns es ps) = ps := by
  simp [GraphStore.batch, packages, List.filterMap_map, Function.comp_def, package?]

theorem ids_of_batch : ids (GraphStore.batch ns es ps) = ns.map (·.id) := by
  rw [ids, nodes_of_batch]

theorem acceptedAfter_append (seen : List String) (xs ys : List Upsert) :
    acceptedAfter seen (xs ++ ys) =
      acceptedAfter seen xs ++ acceptedAfter ((ids xs).reverse ++ seen) ys := by
  induction xs generalizing seen with
  | nil => rfl
  | cons u xs ih =>
    cases u with
    | node node =>
      have hseen : (ids (.node node :: xs)).reverse ++ seen =
          (ids xs).reverse ++ node.id :: seen := by
        simp [ids, nodes, node?]
      rw [List.cons_append, acceptedAfter, acceptedAfter, ih, hseen]
    | edge edge =>
      rw [List.cons_append, acceptedAfter, acceptedAfter, ih]
      by_cases h : edge.source ∈ seen ∧ edge.target ∈ seen
      · rw [if_pos h, if_pos h]
        rfl
      · rw [if_neg h, if_neg h]
        rfl
    | package package =>
      rw [List.cons_append, acceptedAfter, acceptedAfter, ih]
      rfl

theorem acceptedAfter_map_node (seen : List String) : acceptedAfter seen (ns.map .node) = [] := by
  induction ns generalizing seen with
  | nil => rfl
  | cons node ns ih => exact ih (node.id :: seen)

theorem acceptedAfter_map_edge (seen : List String) : acceptedAfter seen (es.map .edge) =
    es.filter fun e => e.source ∈ seen ∧ e.target ∈ seen := by
  induction es with
  | nil => rfl
  | cons edge es ih =>
    rw [List.map_cons, acceptedAfter, ih, List.filter_cons]
    simp only [decide_eq_true_iff]

theorem acceptedAfter_map_package (seen : List String) :
    acceptedAfter seen (ps.map .package) = [] := by
  induction ps with
  | nil => rfl
  | cons package ps ih => exact ih

theorem acceptedAfter_batch (seen : List String) : acceptedAfter seen (GraphStore.batch ns es ps) =
    es.filter fun e => (e.source ∈ ns.map (·.id) ∨ e.source ∈ seen) ∧
      (e.target ∈ ns.map (·.id) ∨ e.target ∈ seen) := by
  have hids : ids (ns.map .node) = ns.map (·.id) := by
    simp [ids, nodes, List.filterMap_map, Function.comp_def, node?]
  rw [GraphStore.batch, acceptedAfter_append, acceptedAfter_append, acceptedAfter_map_node,
    acceptedAfter_map_edge, acceptedAfter_map_package, List.append_nil, List.nil_append, hids]
  simp only [List.mem_append, List.mem_reverse]

theorem length_acceptedAfter_le (seen : List String) (history : List Upsert) :
    (acceptedAfter seen history).length ≤ (edges history).length := by
  induction history generalizing seen with
  | nil => exact Nat.le_refl 0
  | cons u history ih =>
    cases u with
    | node node => exact ih (node.id :: seen)
    | edge edge =>
      have hedges : edges (.edge edge :: history) = edge :: edges history := rfl
      rw [acceptedAfter, hedges, List.length_cons]
      by_cases h : edge.source ∈ seen ∧ edge.target ∈ seen
      · rw [if_pos h, List.length_cons]
        exact Nat.succ_le_succ (ih seen)
      · rw [if_neg h]
        exact Nat.le_succ_of_le (ih seen)
    | package package => exact ih seen

/-- What is counted of a history where some ids have been seen before. -/
def summaryAfter (seen : List String) (history : List Upsert) : WriteSummary :=
  { nodes := (nodes history).length
    edges := (acceptedAfter seen history).length
    edgesSkipped := (edges history).length - (acceptedAfter seen history).length
    packages := (packages history).length }

end History

namespace Contents

open History

theorem apply_summaryAfter {c : Contents} (h : c.WellFormed) (done : List Upsert) (u : Upsert) :
    GraphStore.apply u (summaryAfter c.ids done) (⟨some (c.writeAll done)⟩ : PlainStore) =
      .ok (summaryAfter c.ids (done ++ [u]), ⟨some (c.writeAll (done ++ [u]))⟩) := by
  rw [writeAll_concat, summaryAfter, summaryAfter, nodes_append, edges_append, packages_append,
    acceptedAfter_append, List.length_append, List.length_append, List.length_append,
    List.length_append]
  cases u with
  | node node => rfl
  | edge edge =>
    have hacc : (c.writeAll done).accepts edge ↔ edge.source ∈ (History.ids done).reverse ++ c.ids ∧
        edge.target ∈ (History.ids done).reverse ++ c.ids := by
      simp only [accepts_iff, mem_ids_writeAll h, List.mem_append, List.mem_reverse, or_comm]
    change (if (c.writeAll done).accepts edge then _ else _) = _
    by_cases hstored : (c.writeAll done).accepts edge
    · rw [if_pos hstored, acceptedAfter, if_pos (hacc.mp hstored)]
      refine congrArg Except.ok (Prod.ext ?_ rfl)
      rw [WriteSummary.mk.injEq]
      exact ⟨rfl, rfl, (Nat.add_sub_add_right _ 1 _).symm, rfl⟩
    · rw [if_neg hstored, acceptedAfter, if_neg (mt hacc.mpr hstored)]
      refine congrArg Except.ok (Prod.ext ?_ rfl)
      rw [WriteSummary.mk.injEq]
      exact ⟨rfl, rfl, (Nat.sub_add_comm (length_acceptedAfter_le c.ids done)).symm, rfl⟩
  | package package => rfl

theorem applyAll_summaryAfter {c : Contents} (h : c.WellFormed) (done rest : List Upsert) :
    GraphStore.applyAll (summaryAfter c.ids done) (⟨some (c.writeAll done)⟩ : PlainStore) rest =
      (.ok (summaryAfter c.ids (done ++ rest)), ⟨some (c.writeAll (done ++ rest))⟩) := by
  induction rest generalizing done with
  | nil => rw [GraphStore.applyAll, List.append_nil]
  | cons u rest ih =>
    have hrest := ih (done ++ [u])
    rw [GraphStore.applyAll, apply_summaryAfter h]
    rwa [List.append_assoc] at hrest

theorem applyAll_eq {c : Contents} (h : c.WellFormed) (writes : List Upsert) :
    GraphStore.applyAll .zero (⟨some c⟩ : PlainStore) writes =
      (.ok (summaryAfter c.ids writes), ⟨some (c.writeAll writes)⟩) :=
  applyAll_summaryAfter h [] writes

end Contents

namespace Call

def writes : Call → List Upsert
  | .upsert write => [write]
  | .ingest nodes edges packages => GraphStore.batch nodes edges packages
  | _ => []

def makesSchema : Call → Bool
  | .ensureSchema => true
  | _ => false

/-- The writes of calls to a new store, but for those that come before its schema. -/
def carriedOut (calls : List Call) : List Upsert :=
  (calls.dropWhile fun call => !call.makesSchema).flatMap writes

end Call

namespace Contents

theorem run_call {c : Contents} (h : c.WellFormed) (call : Call) :
    (call.run (⟨some c⟩ : PlainStore)).2 = ⟨some (c.writeAll call.writes)⟩ := by
  cases call with
  | upsert write => rw [run_upsert]; rfl
  | ingest nodes edges packages =>
    exact congrArg Prod.snd (applyAll_eq h (GraphStore.batch nodes edges packages))
  | _ => rfl

theorem after_calls {c : Contents} (h : c.WellFormed) (calls : List Call) :
    Call.after (⟨some c⟩ : PlainStore) calls = ⟨some (c.writeAll (calls.flatMap Call.writes))⟩ := by
  induction calls generalizing c with
  | nil => rfl
  | cons call calls ih =>
    rw [Call.after_cons, run_call h, ih (h.writeAll call.writes), List.flatMap_cons, writeAll_append]

end Contents

namespace PlainStore

theorem applyAll_none (summary : WriteSummary) (writes : List Upsert) :
    (GraphStore.applyAll summary (⟨none⟩ : PlainStore) writes).2 = ⟨none⟩ := by
  cases writes with
  | nil => rfl
  | cons u writes => cases u <;> rfl

theorem run_fresh {call : Call} (h : ¬ call.makesSchema) : (call.run fresh).2 = fresh := by
  cases call with
  | ensureSchema => exact absurd rfl h
  | upsert write => cases write <;> rfl
  | ingest nodes edges packages => exact applyAll_none .zero (GraphStore.batch nodes edges packages)
  | _ => rfl

/-- A new store has no contents until a call makes its schema, and then those of the writes after it. -/
theorem after_fresh (calls : List Call) :
    Call.after fresh calls =
      ⟨if calls.any Call.makesSchema then some (Contents.empty.writeAll (Call.carriedOut calls))
        else none⟩ := by
  induction calls with
  | nil => rfl
  | cons call calls ih =>
    rw [Call.after_cons, List.any_cons, Call.carriedOut]
    by_cases h : call.makesSchema
    · cases call with
      | ensureSchema => exact Contents.after_calls Contents.WellFormed.empty calls
      | _ => cases h
    · rw [run_fresh h, ih, List.dropWhile_cons_of_pos (by simpa using h), Bool.eq_false_iff.mpr h,
        Bool.false_or]
      rfl

end PlainStore

namespace MemoryStore

open History

theorem shows_after (calls : List Call) (hready : (Call.after fresh calls).schemaReady = true) :
    Shows (Call.after fresh calls) ⟨some (Call.after fresh calls).graph.contents⟩ := by
  have hafter := Shows.simulation.after Shows.fresh calls
  have hplain : Call.after PlainStore.fresh calls =
      ⟨some (Call.after fresh calls).graph.contents⟩ :=
    congrArg PlainStore.mk (hafter.contents_of_ready hready)
  rwa [hplain] at hafter

theorem schemaReady_after (calls : List Call) :
    (Call.after fresh calls).schemaReady = calls.any Call.makesSchema := by
  have hcontents := (Shows.simulation.after Shows.fresh calls).contents
  rw [PlainStore.after_fresh] at hcontents
  cases hready : (Call.after fresh calls).schemaReady <;> cases hany : calls.any Call.makesSchema <;>
    simp [hready, hany] at hcontents ⊢

theorem shows_carriedOut {calls : List Call} (hready : (Call.after fresh calls).schemaReady = true) :
    Shows (Call.after fresh calls) ⟨some (Contents.empty.writeAll (Call.carriedOut calls))⟩ := by
  have hafter := Shows.simulation.after Shows.fresh calls
  rwa [PlainStore.after_fresh, ← schemaReady_after, if_pos hready] at hafter

theorem Shows.applyAll {s : MemoryStore} {c : Contents} (h : Shows s ⟨some c⟩)
    (writes : List Upsert) :
    (GraphStore.applyAll .zero s writes).1 = .ok (summaryAfter c.ids writes) ∧
      Shows (GraphStore.applyAll .zero s writes).2 ⟨some (c.writeAll writes)⟩ := by
  obtain ⟨hanswer, hafter⟩ := Shows.simulation.applyAll h writes .zero
  rw [Contents.applyAll_eq h.wellFormed_contents] at hanswer hafter
  exact ⟨hanswer.eq_ok, hafter⟩

theorem Shows.contents_ingest {s : MemoryStore} {p : PlainStore} (h : Shows s p)
    (ns : List ModuleNode) (es : List Edge) (ps : List Package) :
    (GraphStore.ingest ns es ps s).2.graph.contents =
      if s.schemaReady then s.graph.contents.writeAll (GraphStore.batch ns es ps)
      else s.graph.contents := by
  have hafter := (Shows.simulation.applyAll h (GraphStore.batch ns es ps) .zero).2.graph_contents
  have hp : p = ⟨if s.schemaReady then some s.graph.contents else none⟩ :=
    congrArg PlainStore.mk h.contents
  by_cases hs : s.schemaReady = true
  · rw [if_pos hs] at hp ⊢
    rw [hp, Contents.applyAll_eq h.wellFormed] at hafter
    exact hafter
  · rw [if_neg hs] at hp ⊢
    rw [hp, PlainStore.applyAll_none] at hafter
    exact hafter.trans (h.empty (Bool.eq_false_iff.mpr hs)).symm

end MemoryStore

end CodeAtlas
