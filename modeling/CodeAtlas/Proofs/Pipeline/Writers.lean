import CodeAtlas.Pipeline
import Mathlib.Logic.Function.Iterate

/-!
# Writers that share a store

The write of a graph is cut into its single statements, each of which is carried out as a whole.
Several writers share one store and take their statements in turns, in any order.
-/

namespace CodeAtlas

inductive WriteStep where
  | ensureSchema
  | upsert (u : Upsert)
  deriving DecidableEq, Repr

def ProjectGraph.batch (graph : ProjectGraph) : List Upsert :=
  GraphStore.batch graph.nodes graph.edges graph.packages

def ProjectGraph.steps (graph : ProjectGraph) : List WriteStep :=
  .ensureSchema :: graph.batch.map .upsert

/-- A write with what it has counted and the steps that it has yet to take, or the failure that
ended it. -/
inductive Writer where
  | writing (summary : WriteSummary) (pending : List WriteStep)
  | failed (error : Error)

namespace Writer

variable {σ : Type} [GraphStore σ]

def start (graph : ProjectGraph) : Writer := .writing .zero graph.steps

def pending : Writer → List WriteStep
  | .writing _ pending => pending
  | .failed _ => []

def step : Writer → σ → Writer × σ
  | .writing summary (.ensureSchema :: rest), s =>
    (.writing summary rest, GraphStore.ensureSchema s)
  | .writing summary (.upsert u :: rest), s =>
    match GraphStore.apply u summary s with
    | .ok (summary, s) => (.writing summary rest, s)
    | .error e => (.failed e, s)
  | .writing summary [], s => (.writing summary [], s)
  | .failed e, s => (.failed e, s)

def finished : Except Error WriteSummary → Writer
  | .ok summary => .writing summary []
  | .error e => .failed e

theorem step_finished (outcome : Except Error WriteSummary) (s : σ) :
    (finished outcome).step s = (finished outcome, s) := by
  cases outcome with
  | ok summary => rfl
  | error e => rfl

theorem iterate_writing (us : List Upsert) (summary : WriteSummary) (s : σ) :
    (fun w : Writer × σ => w.1.step w.2)^[us.length] (.writing summary (us.map .upsert), s) =
      (finished (GraphStore.applyAll summary s us).1, (GraphStore.applyAll summary s us).2) := by
  induction us generalizing summary s with
  | nil => rfl
  | cons u us ih =>
    rw [List.length_cons, Function.iterate_succ_apply, List.map_cons, step, GraphStore.applyAll]
    cases GraphStore.apply u summary s with
    | ok result => exact ih result.1 result.2
    | error e => exact Function.iterate_fixed (step_finished (.error e) s) us.length

/-- The steps of a write are the write, when nothing comes between them. -/
theorem iterate_start (graph : ProjectGraph) (s : σ) :
    (fun w : Writer × σ => w.1.step w.2)^[graph.steps.length] (start graph, s) =
      (finished (Pipeline.write graph s).1, (Pipeline.write graph s).2) := by
  rw [ProjectGraph.steps, List.length_cons, List.length_map, Function.iterate_succ_apply]
  exact iterate_writing graph.batch .zero (GraphStore.ensureSchema s)

theorem length_pending_step (w : Writer) (s : σ) :
    (w.step s).1.pending.length ≤ w.pending.length - 1 := by
  cases w with
  | failed e => exact Nat.le_refl 0
  | writing summary pending =>
    cases pending with
    | nil => exact Nat.le_refl 0
    | cons next rest =>
      cases next with
      | ensureSchema => exact Nat.le_refl rest.length
      | upsert u =>
        rw [step]
        cases GraphStore.apply u summary s with
        | ok result => exact Nat.le_refl rest.length
        | error e => exact Nat.zero_le _

end Writer

structure Writers (n : Nat) (σ : Type) where
  writer : Fin n → Writer
  store : σ

namespace Writers

variable {n : Nat} {σ : Type} [GraphStore σ]

def start (graphs : Fin n → ProjectGraph) (store : σ) : Writers n σ :=
  { writer := fun i => .start (graphs i), store }

def turn (ws : Writers n σ) (i : Fin n) : Writers n σ :=
  { writer := Function.update ws.writer i ((ws.writer i).step ws.store).1
    store := ((ws.writer i).step ws.store).2 }

def run (ws : Writers n σ) (schedule : List (Fin n)) : Writers n σ := schedule.foldl turn ws

theorem run_cons (ws : Writers n σ) (i : Fin n) (schedule : List (Fin n)) :
    ws.run (i :: schedule) = (ws.turn i).run schedule := rfl

theorem writer_turn_self (ws : Writers n σ) (i : Fin n) :
    (ws.turn i).writer i = ((ws.writer i).step ws.store).1 :=
  Function.update_self ..

theorem writer_turn_of_ne (ws : Writers n σ) {i j : Fin n} (h : j ≠ i) :
    (ws.turn i).writer j = ws.writer j :=
  Function.update_of_ne h ..

theorem turn_eq_self {ws : Writers n σ} {i : Fin n}
    (h : (ws.writer i).step ws.store = (ws.writer i, ws.store)) : ws.turn i = ws := by
  rw [turn, h, Function.update_eq_self]

theorem length_pending_turn (ws : Writers n σ) (i j : Fin n) :
    ((ws.turn i).writer j).pending.length ≤
      (ws.writer j).pending.length - if i = j then 1 else 0 := by
  by_cases h : i = j
  · subst h
    rw [if_pos rfl, writer_turn_self]
    exact (ws.writer i).length_pending_step ws.store
  · rw [if_neg h, ws.writer_turn_of_ne (Ne.symm h)]
    exact Nat.le_refl _

theorem length_pending_run (ws : Writers n σ) (schedule : List (Fin n)) (i : Fin n) :
    ((ws.run schedule).writer i).pending.length ≤
      (ws.writer i).pending.length - schedule.count i := by
  induction schedule generalizing ws with
  | nil => exact Nat.le_refl _
  | cons j schedule ih =>
    have hrun := ih (ws.turn j)
    have hturn := ws.length_pending_turn j i
    rw [run_cons, List.count_cons]
    by_cases h : j = i
    · simp only [h, beq_self_eq_true, if_true] at hrun hturn ⊢
      omega
    · simp only [h, beq_iff_eq, if_false] at hrun hturn ⊢
      omega

theorem pending_run_eq_nil (graphs : Fin n → ProjectGraph) (store : σ) {schedule : List (Fin n)}
    {i : Fin n} (h : (graphs i).steps.length ≤ schedule.count i) :
    (((start graphs store).run schedule).writer i).pending = [] := by
  have hlen := (start graphs store).length_pending_run schedule i
  have hstart : ((start graphs store).writer i).pending = (graphs i).steps := rfl
  rw [hstart] at hlen
  apply List.eq_nil_of_length_eq_zero
  omega

end Writers

end CodeAtlas
