import CodeAtlas.Proofs.Store.Memory

/-!
# What a history of writes leaves

The contents after any writes, told by the writes alone: of each node and package the last write
counts and the first one places it, and an edge counts from the first time that both its ends were
written before it.
-/

namespace CodeAtlas

open Keyed

namespace History

def node? : Upsert → Option ModuleNode
  | .node node => some node
  | _ => none

def edge? : Upsert → Option Edge
  | .edge edge => some edge
  | _ => none

def package? : Upsert → Option Package
  | .package package => some package
  | _ => none

def nodes (history : List Upsert) : List ModuleNode := history.filterMap node?

def edges (history : List Upsert) : List Edge := history.filterMap edge?

def packages (history : List Upsert) : List Package := history.filterMap package?

def ids (history : List Upsert) : List String := (nodes history).map (·.id)

def names (history : List Upsert) : List String := (packages history).map (·.name)

theorem nodes_append (xs ys : List Upsert) : nodes (xs ++ ys) = nodes xs ++ nodes ys :=
  List.filterMap_append

theorem edges_append (xs ys : List Upsert) : edges (xs ++ ys) = edges xs ++ edges ys :=
  List.filterMap_append

theorem packages_append (xs ys : List Upsert) : packages (xs ++ ys) = packages xs ++ packages ys :=
  List.filterMap_append

theorem ids_append (xs ys : List Upsert) : ids (xs ++ ys) = ids xs ++ ids ys := by
  rw [ids, nodes_append, List.map_append]
  rfl

/-- The edges whose ends have both been seen when they are written. -/
def acceptedAfter (seen : List String) : List Upsert → List Edge
  | [] => []
  | .node node :: rest => acceptedAfter (node.id :: seen) rest
  | .edge edge :: rest =>
    if edge.source ∈ seen ∧ edge.target ∈ seen then edge :: acceptedAfter seen rest
    else acceptedAfter seen rest
  | .package _ :: rest => acceptedAfter seen rest

def accepted (history : List Upsert) : List Edge := acceptedAfter [] history

end History

namespace Contents

open History

theorem nodes_writeAll (c : Contents) (history : List Upsert) :
    (c.writeAll history).nodes = mergeAll (·.id) c.nodes (History.nodes history) := by
  induction history generalizing c with
  | nil => rfl
  | cons u history ih =>
    rw [writeAll, List.foldl_cons, ← writeAll, ih]
    cases u with
    | node node => rfl
    | edge edge => exact congrArg (mergeAll _ · _) (nodes_addEdge edge c)
    | package package => rfl

theorem packages_writeAll (c : Contents) (history : List Upsert) :
    (c.writeAll history).packages = mergeAll (·.name) c.packages (History.packages history) := by
  induction history generalizing c with
  | nil => rfl
  | cons u history ih =>
    rw [writeAll, List.foldl_cons, ← writeAll, ih]
    cases u with
    | node node => rfl
    | edge edge => exact congrArg (mergeAll _ · _) (packages_addEdge edge c)
    | package package => rfl

theorem edges_writeAll (c : Contents) {seen : List String} (hseen : ∀ id, id ∈ c.ids ↔ id ∈ seen)
    (history : List Upsert) :
    (c.writeAll history).edges = keepAll id c.edges (acceptedAfter seen history) := by
  induction history generalizing c seen with
  | nil => rfl
  | cons u history ih =>
    rw [writeAll, List.foldl_cons, ← writeAll]
    cases u with
    | node node =>
      rw [acceptedAfter]
      apply ih (c.addNode node)
      intro id
      rw [mem_ids_addNode, hseen, List.mem_cons, or_comm]
    | edge edge =>
      have hacc : c.accepts edge ↔ edge.source ∈ seen ∧ edge.target ∈ seen := by
        rw [accepts_iff, hseen, hseen]
      rw [acceptedAfter, write]
      by_cases h : edge.source ∈ seen ∧ edge.target ∈ seen
      · rw [if_pos h, addEdge_of_accepts (hacc.mpr h)]
        exact ih _ hseen
      · rw [if_neg h, addEdge_of_not_accepts (mt hacc.mp h)]
        exact ih c hseen
    | package package =>
      rw [acceptedAfter]
      exact ih (c.addPackage package) hseen

theorem writeAll_append (c : Contents) (first second : List Upsert) :
    c.writeAll (first ++ second) = (c.writeAll first).writeAll second := List.foldl_append

theorem writeAll_concat (c : Contents) (history : List Upsert) (u : Upsert) :
    c.writeAll (history ++ [u]) = (c.writeAll history).write u := by
  rw [writeAll, List.foldl_concat, ← writeAll]

theorem ids_writeAll {c : Contents} (h : c.WellFormed) (history : List Upsert) :
    (c.writeAll history).ids = (c.ids ++ History.ids history).eraseDups := by
  rw [ids, nodes_writeAll, keys_mergeAll _ h.ids_nodup]
  rfl

theorem mem_ids_writeAll {c : Contents} (h : c.WellFormed) (history : List Upsert) (id : String) :
    id ∈ (c.writeAll history).ids ↔ id ∈ c.ids ∨ id ∈ History.ids history := by
  rw [ids_writeAll h, List.mem_eraseDups, List.mem_append]

theorem names_writeAll {c : Contents} (h : c.WellFormed) (history : List Upsert) :
    (c.writeAll history).names = (c.names ++ History.names history).eraseDups := by
  rw [names, packages_writeAll, keys_mergeAll _ h.names_nodup]
  rfl

theorem nodes_writeAll_empty (history : List Upsert) :
    (empty.writeAll history).nodes = latest (·.id) (History.nodes history) := by
  rw [nodes_writeAll]
  exact mergeAll_nil_eq_latest _ _

theorem packages_writeAll_empty (history : List Upsert) :
    (empty.writeAll history).packages = latest (·.name) (History.packages history) := by
  rw [packages_writeAll]
  exact mergeAll_nil_eq_latest _ _

theorem edges_writeAll_empty (history : List Upsert) :
    (empty.writeAll history).edges = (accepted history).eraseDups := by
  have hkeys := keys_keepAll id (accepted history)
  rw [List.map_id, List.map_id] at hkeys
  rw [edges_writeAll empty (fun id => Iff.rfl)]
  exact hkeys

example :
    let node (id : String) : Upsert := .node ⟨id, id, "N", .cls, "a.txt"⟩
    let edge (source target : String) : Upsert := .edge (.importing source target)
    let history := [node "a", edge "a" "b", edge "a" "a", node "b", edge "a" "b", edge "a" "a"]
    (accepted history).eraseDups = [.importing "a" "a", .importing "a" "b"] := by
  decide

theorem getNode_writeAll_empty (history : List Upsert) (id : String) :
    (empty.writeAll history).getNode id = last? (·.id) id (History.nodes history) := by
  rw [getNode, nodes_writeAll, lookup?_mergeAll]
  exact Option.or_none

theorem stats_writeAll_empty (history : List Upsert) :
    (empty.writeAll history).stats =
      { modules := (History.ids history).eraseDups.length
        edges := (accepted history).eraseDups.length
        packages := (History.names history).eraseDups.length } := by
  have hids := congrArg List.length (ids_writeAll WellFormed.empty history)
  have hnames := congrArg List.length (names_writeAll WellFormed.empty history)
  have hedges := congrArg List.length (edges_writeAll_empty history)
  rw [ids, List.length_map] at hids
  rw [names, List.length_map] at hnames
  rw [stats, hids, hnames, hedges]
  rfl

def reply (c : Contents) : Upsert → Answer
  | .edge edge => .stored (c.accepts edge)
  | _ => .done

theorem run_upsert (c : Contents) (u : Upsert) :
    Call.run (⟨some c⟩ : PlainStore) (.upsert u) = (.ok (c.reply u), ⟨some (c.write u)⟩) := by
  cases u with
  | node node => rfl
  | edge edge => rfl
  | package package => rfl

theorem after_upserts (c : Contents) (history : List Upsert) :
    Call.after (⟨some c⟩ : PlainStore) (history.map .upsert) = ⟨some (c.writeAll history)⟩ := by
  induction history generalizing c with
  | nil => rfl
  | cons u history ih =>
    rw [List.map_cons, Call.after_cons, run_upsert]
    exact ih (c.write u)

end Contents

namespace MemoryStore

def ready : MemoryStore := GraphStore.ensureSchema fresh

theorem Shows.ready : Shows .ready ⟨some .empty⟩ := Shows.fresh.ensureSchema

theorem shows_after_upserts {s : MemoryStore} {c : Contents} (h : Shows s ⟨some c⟩)
    (history : List Upsert) :
    Shows (Call.after s (history.map .upsert)) ⟨some (c.writeAll history)⟩ := by
  have hafter := Shows.simulation.after h (history.map .upsert)
  rwa [Contents.after_upserts] at hafter

/-- The state and the answers of a store are those that a history of writes leaves. -/
structure Reflects (history : List Upsert) (s : MemoryStore) : Prop where
  nodes : s.graph.nodes.toList = latest (·.id) (History.nodes history)
  packages : s.graph.packages.toList = latest (·.name) (History.packages history)
  edges : s.graph.edges.toList = (History.accepted history).eraseDups
  ends_mem : ∀ e ∈ s.graph.edges.toList, e.source ∈ s.graph.nodes.toList.map (·.id) ∧
    e.target ∈ s.graph.nodes.toList.map (·.id)
  getNode : ∀ id, GraphStore.getNode id s = .ok (last? (·.id) id (History.nodes history))
  listNodes : ∀ limit, GraphStore.listNodes limit s =
    .ok ((latest (·.id) (History.nodes history)).take (min limit 1000))
  listEdges : ∀ limit, GraphStore.listEdges limit s =
    .ok ((History.accepted history).eraseDups.take (min limit 5000))
  listPackages : ∀ limit, GraphStore.listPackages limit s =
    .ok ((latest (·.name) (History.packages history)).take (min limit 1000))
  stats : GraphStore.stats s = .ok
    { modules := (History.ids history).eraseDups.length
      edges := (History.accepted history).eraseDups.length
      packages := (History.names history).eraseDups.length }

theorem Shows.reflects {s : MemoryStore} {history : List Upsert}
    (h : Shows s ⟨some (Contents.empty.writeAll history)⟩) : Reflects history s := by
  have hcontents : s.graph.contents = Contents.empty.writeAll history := h.graph_contents
  have hwf := Contents.WellFormed.empty.writeAll history
  constructor
  case nodes =>
    rw [← Contents.nodes_writeAll_empty, ← hcontents]
    rfl
  case packages =>
    rw [← Contents.packages_writeAll_empty, ← hcontents]
    rfl
  case edges =>
    rw [← Contents.edges_writeAll_empty, ← hcontents]
    rfl
  case ends_mem =>
    rw [← hcontents] at hwf
    intro e he
    exact (Contents.accepts_iff _ e).mp (hwf.accepts_of_mem e he)
  case getNode =>
    intro id
    rw [← Contents.getNode_writeAll_empty]
    exact (simulation.getNode h id).eq_ok
  case listNodes =>
    intro limit
    rw [← Contents.nodes_writeAll_empty]
    exact (simulation.listNodes h limit).eq_ok
  case listEdges =>
    intro limit
    rw [← Contents.edges_writeAll_empty]
    exact (simulation.listEdges h limit).eq_ok
  case listPackages =>
    intro limit
    rw [← Contents.packages_writeAll_empty]
    exact (simulation.listPackages h limit).eq_ok
  case stats =>
    rw [← Contents.stats_writeAll_empty]
    exact (simulation.stats h).eq_ok

theorem Shows.run_edge {s : MemoryStore} {history : List Upsert}
    (h : Shows s ⟨some (Contents.empty.writeAll history)⟩) (edge : Edge) :
    (Call.run s (.upsert (.edge edge))).1 = .ok (.stored
      (decide (edge.source ∈ History.ids history ∧ edge.target ∈ History.ids history))) := by
  have hanswer := (simulation.run h (.upsert (.edge edge))).1
  rw [Contents.run_upsert] at hanswer
  rw [hanswer.eq_ok, Contents.reply, Contents.accepts]
  have hmem (id : String) : id ∈ (Contents.empty.writeAll history).ids ↔
      id ∈ History.ids history := by
    rw [Contents.mem_ids_writeAll Contents.WellFormed.empty]
    exact or_iff_right List.not_mem_nil
  simp only [hmem]

/-- Every write of a history is answered by what was written before it, and what the history leaves
is told by its writes alone. -/
theorem reflects_history (history : List Upsert) :
    Reflects history (Call.after ready (history.map .upsert)) ∧
      ∀ before edge rest,
        (Call.outcomes ready ((before ++ .edge edge :: rest).map .upsert))[before.length]? =
          some (.ok (.stored
            (decide (edge.source ∈ History.ids before ∧ edge.target ∈ History.ids before)))) := by
  constructor
  · exact (shows_after_upserts Shows.ready history).reflects
  · intro before edge rest
    have hat := Call.getElem?_outcomes ready (before.map .upsert) (rest.map .upsert)
      (.upsert (.edge edge))
    rw [List.length_map, (shows_after_upserts Shows.ready before).run_edge edge] at hat
    rw [List.map_append, List.map_cons, hat]

end MemoryStore

end CodeAtlas
