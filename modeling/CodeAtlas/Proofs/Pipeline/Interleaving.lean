import CodeAtlas.Proofs.Keyed.Shuffle
import CodeAtlas.Proofs.Pipeline.Build
import CodeAtlas.Proofs.Pipeline.Writers
import CodeAtlas.Proofs.Store.Batch

/-!
# Writers lose nothing of each other's

A writer has written all nodes of its graph before its first edge, and nothing is ever taken from a
store. So the ends of every edge are there when it is written, whatever the other writers do in
between, and the store ends with all that anyone wrote.
-/

namespace CodeAtlas

open Keyed

namespace History

theorem nodes_batch (graph : ProjectGraph) : nodes graph.batch = graph.nodes :=
  nodes_of_batch graph.nodes graph.edges graph.packages

theorem edges_batch (graph : ProjectGraph) : edges graph.batch = graph.edges :=
  edges_of_batch graph.nodes graph.edges graph.packages

theorem packages_batch (graph : ProjectGraph) : packages graph.batch = graph.packages :=
  packages_of_batch graph.nodes graph.edges graph.packages

theorem pairwise_batch (graph : ProjectGraph) :
    graph.batch.Pairwise fun u v => (edge? u).isSome → node? v = none := by
  rw [ProjectGraph.batch, GraphStore.batch, List.append_assoc, List.pairwise_append]
  refine ⟨?_, ?_, ?_⟩
  · rw [List.pairwise_map]
    exact List.pairwise_of_forall fun _ _ h => absurd h (by simp [edge?])
  · apply List.pairwise_of_forall_mem_list
    intro u _ v hv _
    simp only [List.mem_append, List.mem_map] at hv
    obtain ⟨edge, -, rfl⟩ | ⟨package, -, rfl⟩ := hv
    · rfl
    · rfl
  · intro u hu v _ h
    obtain ⟨node, -, rfl⟩ := List.mem_map.mp hu
    exact absurd h (by simp [edge?])

theorem nodes_of_split_batch {graph : ProjectGraph} {done rest : List Upsert} {edge : Edge}
    (h : graph.batch = done ++ .edge edge :: rest) : nodes done = graph.nodes := by
  have hpairwise := pairwise_batch graph
  rw [h, List.pairwise_append, List.pairwise_cons] at hpairwise
  have hrest : nodes rest = [] := by
    rw [nodes, List.filterMap_eq_nil_iff]
    intro v hv
    exact hpairwise.2.1.1 v hv rfl
  calc nodes done = nodes done ++ nodes (.edge edge :: rest) := by
        rw [nodes, nodes, List.filterMap_cons, ← nodes, ← nodes, hrest]
        exact (List.append_nil _).symm
    _ = graph.nodes := by rw [← nodes_append, ← h, nodes_batch]

theorem mem_edges_of_split_batch {graph : ProjectGraph} {done rest : List Upsert} {edge : Edge}
    (h : graph.batch = done ++ .edge edge :: rest) : edge ∈ graph.edges := by
  rw [← edges_batch, h, edges_append]
  exact List.mem_append_right _ List.mem_cons_self

def tally (history : List Upsert) : WriteSummary :=
  { nodes := (nodes history).length
    edges := (edges history).length
    edgesSkipped := 0
    packages := (packages history).length }

end History

namespace Contents

open History

def Admits (c : Contents) (u : Upsert) : Prop := ∀ edge, u = .edge edge → c.accepts edge

theorem apply_of_admits {c : Contents} {u : Upsert} (h : c.Admits u) (done : List Upsert) :
    GraphStore.apply u (tally done) (⟨some c⟩ : PlainStore) =
      .ok (tally (done ++ [u]), ⟨some (c.write u)⟩) := by
  rw [tally, tally, nodes_append, edges_append, packages_append, List.length_append,
    List.length_append, List.length_append]
  cases u with
  | node node => rfl
  | edge edge =>
    have hacc := h edge rfl
    change (if c.accepts edge then _ else _) = _
    rw [if_pos hacc]
    rfl
  | package package => rfl

theorem mem_edges_write {c : Contents} {u : Upsert} (h : c.Admits u) (e : Edge) :
    e ∈ (c.write u).edges ↔ e ∈ c.edges ∨ e ∈ History.edges [u] := by
  cases u with
  | node node => simp [write, addNode, History.edges, edge?]
  | edge edge =>
    rw [write, addEdge_of_accepts (h edge rfl), mem_keep_id]
    simp [History.edges, edge?]
  | package package => simp [write, addPackage, History.edges, edge?]

end Contents

/-- A writer of a graph that has written a part of it, and has counted just that. -/
inductive Stage (p : PlainStore) (graph : ProjectGraph) : List Upsert → Writer → Prop where
  | starting : Stage p graph [] (.start graph)
  | writing {done rest : List Upsert} (hp : p.contents.isSome)
    (hbatch : graph.batch = done ++ rest) :
    Stage p graph done (.writing (History.tally done) (rest.map .upsert))

theorem Stage.mono {p p' : PlainStore} {graph : ProjectGraph} {done : List Upsert} {w : Writer}
    (h : Stage p graph done w) (hp : p.contents.isSome → p'.contents.isSome) :
    Stage p' graph done w := by
  cases h with
  | starting => exact .starting
  | writing hsome hbatch => exact .writing (hp hsome) hbatch

def ProjectGraph.Closed (graph : ProjectGraph) : Prop :=
  ∀ e ∈ graph.edges, e.source ∈ graph.nodes.map (·.id) ∧ e.target ∈ graph.nodes.map (·.id)

theorem Contents.admits_of_split_batch {n : Nat} {start : Contents} (hstart : start.WellFormed)
    {written : List (Fin n × Upsert)} {i : Fin n} {graph : ProjectGraph} (hclosed : graph.Closed)
    {u : Upsert} {rest : List Upsert} (hbatch : graph.batch = part i written ++ u :: rest) :
    (start.writeAll (written.map (·.2))).Admits u := by
  rintro edge rfl
  obtain ⟨hsource, htarget⟩ := hclosed edge (History.mem_edges_of_split_batch hbatch)
  have hids : ∀ id ∈ graph.nodes.map (·.id),
      id ∈ (start.writeAll (written.map (·.2))).ids := by
    intro id hid
    rw [← History.nodes_of_split_batch hbatch] at hid
    have hsub : part i written ⊆ written.map (·.2) := by
      intro v hv
      exact (mem_map_snd_iff written v).mpr ⟨i, hv⟩
    rw [Contents.mem_ids_writeAll hstart]
    exact Or.inr (List.map_subset _ (List.filterMap_subset _ hsub) hid)
  rw [Contents.accepts_iff]
  exact ⟨hids _ hsource, hids _ htarget⟩

variable {n : Nat} {σ : Type} {R : σ → PlainStore → Prop}

/-- What holds between the turns: all that was written so far, each write beside its writer, stands in
the store, and each writer's own writes are the beginning of its batch. -/
structure Progress (R : σ → PlainStore → Prop) (start : Contents) (graphs : Fin n → ProjectGraph)
    (written : List (Fin n × Upsert)) (p : PlainStore) (ws : Writers n σ) : Prop where
  related : R ws.store p
  contents : p.contents.getD .empty = start.writeAll (written.map (·.2))
  mem_edges_iff : ∀ e, e ∈ (start.writeAll (written.map (·.2))).edges ↔
    e ∈ start.edges ∨ e ∈ History.edges (written.map (·.2))
  stage : ∀ i, Stage p (graphs i) (part i written) (ws.writer i)

theorem step_upsert [GraphStore σ] (sim : Simulation R) {store : σ} {c : Contents}
    (h : R store ⟨some c⟩) {u : Upsert} (hadmits : c.Admits u) (done : List Upsert)
    (rest : List WriteStep) :
    ∃ store', (Writer.writing (History.tally done) (.upsert u :: rest)).step store =
        (.writing (History.tally (done ++ [u])) rest, store') ∧ R store' ⟨some (c.write u)⟩ := by
  have happly := sim.apply h u (History.tally done)
  rw [Contents.apply_of_admits hadmits] at happly
  obtain ⟨⟨summary, store'⟩, hok, hsummary, hrelated⟩ := happly.exists_ok
  refine ⟨store', ?_, hrelated⟩
  rw [Writer.step, hok]
  exact congrArg (fun summary => (Writer.writing summary rest, store')) hsummary

namespace Progress

variable {start : Contents} {graphs : Fin n → ProjectGraph} {written : List (Fin n × Upsert)}
  {p : PlainStore} {ws : Writers n σ}

theorem initial (graphs : Fin n → ProjectGraph) {store : σ} (h : R store p) :
    Progress R (p.contents.getD .empty) graphs [] p (Writers.start graphs store) where
  related := h
  contents := rfl
  mem_edges_iff e := by simp [Contents.writeAll, History.edges]
  stage _ := .starting

variable [GraphStore σ]

theorem turn_starting (sim : Simulation R) (h : Progress R start graphs written p ws) {i : Fin n}
    (hw : ws.writer i = .start (graphs i)) (hpart : part i written = []) :
    Progress R start graphs written (GraphStore.ensureSchema p) (ws.turn i) where
  related := by
    rw [Writers.turn, hw]
    exact sim.ensureSchema h.related
  contents := h.contents
  mem_edges_iff := h.mem_edges_iff
  stage j := by
    by_cases hj : j = i
    · subst hj
      rw [ws.writer_turn_self, hw, hpart]
      exact .writing rfl rfl
    · rw [ws.writer_turn_of_ne hj]
      exact (h.stage j).mono fun _ => rfl

theorem turn_writing (sim : Simulation R) (h : Progress R start graphs written p ws)
    (hstart : start.WellFormed) {i : Fin n} (hclosed : (graphs i).Closed) {u : Upsert}
    {rest : List Upsert} (hp : p.contents.isSome)
    (hbatch : (graphs i).batch = part i written ++ u :: rest)
    (hw : ws.writer i =
      .writing (History.tally (part i written)) (.upsert u :: rest.map .upsert)) :
    ∃ p', Progress R start graphs (written ++ [(i, u)]) p' (ws.turn i) := by
  obtain ⟨c, hc⟩ := Option.isSome_iff_exists.mp hp
  obtain rfl : p = ⟨some c⟩ := congrArg PlainStore.mk hc
  have hcontents : c = start.writeAll (written.map (·.2)) := h.contents
  have hadmits : c.Admits u := hcontents ▸ Contents.admits_of_split_batch hstart hclosed hbatch
  have hwritten : start.writeAll ((written ++ [(i, u)]).map (·.2)) = c.write u := by
    rw [List.map_append, hcontents]
    exact Contents.writeAll_concat start _ u
  obtain ⟨store, hstep, hrelated⟩ :=
    step_upsert sim h.related hadmits (part i written) (rest.map .upsert)
  rw [← hw] at hstep
  refine ⟨⟨some (c.write u)⟩, ?_⟩
  constructor
  case related =>
    rw [Writers.turn, hstep]
    exact hrelated
  case contents => exact hwritten.symm
  case mem_edges_iff =>
    intro e
    rw [hwritten, Contents.mem_edges_write hadmits, hcontents, h.mem_edges_iff, List.map_append,
      History.edges_append, List.mem_append, or_assoc]
    rfl
  case stage =>
    intro j
    rw [part_append]
    by_cases hj : j = i
    · subst hj
      rw [ws.writer_turn_self, hstep, part_cons_self]
      refine .writing rfl ?_
      rw [hbatch, List.append_assoc]
      rfl
    · rw [ws.writer_turn_of_ne hj, part_cons_of_ne (Ne.symm hj)]
      exact (List.append_nil (part j written)).symm ▸ (h.stage j).mono fun _ => rfl

theorem turn (sim : Simulation R) (h : Progress R start graphs written p ws)
    (hstart : start.WellFormed) {i : Fin n} (hclosed : (graphs i).Closed) :
    ∃ written' p', Progress R start graphs written' p' (ws.turn i) := by
  have hstage := h.stage i
  -- the cases of a stage need its writer and what it has written as variables
  generalize hw : ws.writer i = w at hstage
  generalize hpart : part i written = done at hstage
  cases hstage with
  | starting => exact ⟨written, _, h.turn_starting sim hw hpart⟩
  | @writing done rest hp hbatch =>
    cases rest with
    | nil =>
      have hsame : ws.turn i = ws := by
        apply Writers.turn_eq_self
        rw [hw]
        rfl
      rw [hsame]
      exact ⟨written, p, h⟩
    | cons u rest =>
      subst hpart
      obtain ⟨p', h'⟩ := h.turn_writing sim hstart hclosed hp hbatch hw
      exact ⟨_, p', h'⟩

theorem run (sim : Simulation R) (h : Progress R start graphs written p ws)
    (hstart : start.WellFormed) (hclosed : ∀ i, (graphs i).Closed) (schedule : List (Fin n)) :
    ∃ written' p', Progress R start graphs written' p' (ws.run schedule) := by
  induction schedule generalizing written p ws with
  | nil => exact ⟨written, p, h⟩
  | cons i schedule ih =>
    obtain ⟨written', p', h'⟩ := h.turn sim hstart (hclosed i)
    exact ih h'

omit [GraphStore σ] in
theorem finished (h : Progress R start graphs written p ws) {i : Fin n}
    (hpending : (ws.writer i).pending = []) :
    part i written = (graphs i).batch ∧
      ws.writer i = .writing (History.tally (graphs i).batch) [] := by
  have hstage := h.stage i
  generalize ws.writer i = w at hstage hpending ⊢
  generalize part i written = done at hstage ⊢
  cases hstage with
  | starting => cases hpending
  | @writing done rest hp hbatch =>
    have hrest : rest = [] := List.map_eq_nil_iff.mp hpending
    rw [hrest, List.append_nil] at hbatch
    rw [hrest, hbatch]
    exact ⟨rfl, rfl⟩

end Progress

theorem ProjectGraph.closed_of_build {p : Pipeline} {project : String} {files : ProjectFiles}
    {graph : ProjectGraph} (h : p.build project files = .ok graph) : graph.Closed :=
  fun _ he => Pipeline.mem_ids_of_mem_edges h he

/-- A store has all that it had before and all that the writers of some graphs submitted, and each of
the writers has counted all that it submitted. -/
structure AllWritten (before : Graph) (graphs : Fin n → ProjectGraph)
    (ws : Writers n MemoryStore) : Prop where
  nodes : Merged ModuleNode.id before.nodes.toList ws.store.graph.nodes.toList
    fun i => (graphs i).nodes
  packages : Merged Package.name before.packages.toList ws.store.graph.packages.toList
    fun i => (graphs i).packages
  edges_nodup : ws.store.graph.edges.toList.Nodup
  mem_edges_iff : ∀ e, e ∈ ws.store.graph.edges.toList ↔
    e ∈ before.edges.toList ∨ ∃ i, e ∈ (graphs i).edges
  summary : ∀ i, ws.writer i = .writing
    { nodes := (graphs i).nodes.length
      edges := (graphs i).edges.length
      edgesSkipped := 0
      packages := (graphs i).packages.length } []

theorem Progress.allWritten {store : MemoryStore} {q p : PlainStore}
    {graphs : Fin n → ProjectGraph} {written : List (Fin n × Upsert)}
    {ws : Writers n MemoryStore} (hbefore : MemoryStore.Shows store q)
    (h : Progress MemoryStore.Shows store.graph.contents graphs written p ws)
    (hfinished : ∀ i, part i written = (graphs i).batch ∧
      ws.writer i = .writing (History.tally (graphs i).batch) []) :
    AllWritten store.graph graphs ws := by
  have hparts := fun i => (hfinished i).1
  have hcontents : ws.store.graph.contents =
      store.graph.contents.writeAll (written.map (·.2)) := by
    rw [h.related.graph_contents, h.contents]
  constructor
  case nodes =>
    have hmerged := merged_filterMap hbefore.wellFormed.ids_nodup History.node? written
    have hnodes : ws.store.graph.nodes.toList =
        mergeAll ModuleNode.id store.graph.nodes.toList (History.nodes (written.map (·.2))) :=
      (congrArg Contents.nodes hcontents).trans (Contents.nodes_writeAll _ _)
    simp only [hparts] at hmerged
    simp only [hnodes, ← History.nodes_batch]
    exact hmerged
  case packages =>
    have hmerged := merged_filterMap hbefore.wellFormed.names_nodup History.package? written
    have hpackages : ws.store.graph.packages.toList =
        mergeAll Package.name store.graph.packages.toList
          (History.packages (written.map (·.2))) :=
      (congrArg Contents.packages hcontents).trans (Contents.packages_writeAll _ _)
    simp only [hparts] at hmerged
    simp only [hpackages, ← History.packages_batch]
    exact hmerged
  case edges_nodup => exact h.related.wellFormed.edges_nodup
  case mem_edges_iff =>
    intro e
    have hsubmitted : e ∈ History.edges (written.map (·.2)) ↔ ∃ i, e ∈ (graphs i).edges := by
      rw [History.edges, ← map_snd_choose, mem_map_snd_iff]
      simp only [part_choose, hparts, ← History.edges_batch]
      rfl
    have hedges := congrArg Contents.edges hcontents
    rw [← hsubmitted, show ws.store.graph.edges.toList = _ from hedges]
    exact h.mem_edges_iff e
  case summary =>
    intro i
    rw [(hfinished i).2, History.tally, History.nodes_batch, History.edges_batch,
      History.packages_batch]

/-- Built graphs that are written at the same time to a store in any state are all written, in
whatever order the writers take their turns. -/
theorem Writers.allWritten_run (calls : List Call) {graphs : Fin n → ProjectGraph}
    (hbuilt : ∀ i, ∃ p project files, Pipeline.build p project files = .ok (graphs i))
    {schedule : List (Fin n)} (hturns : ∀ i, (graphs i).steps.length ≤ schedule.count i) :
    AllWritten (Call.after MemoryStore.fresh calls).graph graphs
      ((Writers.start graphs (Call.after MemoryStore.fresh calls)).run schedule) := by
  have hbefore := MemoryStore.Shows.simulation.after MemoryStore.Shows.fresh calls
  generalize Call.after MemoryStore.fresh calls = store at hbefore ⊢
  have hclosed : ∀ i, (graphs i).Closed := by
    intro i
    obtain ⟨p, project, files, hgraph⟩ := hbuilt i
    exact ProjectGraph.closed_of_build hgraph
  have hinitial := Progress.initial graphs hbefore
  rw [← hbefore.graph_contents] at hinitial
  obtain ⟨written, p, hrun⟩ :=
    hinitial.run MemoryStore.Shows.simulation hbefore.wellFormed hclosed schedule
  generalize hws : (Writers.start graphs store).run schedule = ws at hrun ⊢
  have hfinished : ∀ i, part i written = (graphs i).batch ∧
      ws.writer i = .writing (History.tally (graphs i).batch) [] := by
    intro i
    apply hrun.finished
    rw [← hws]
    exact pending_run_eq_nil graphs store (hturns i)
  exact hrun.allWritten hbefore hfinished

/-- Two graphs share a module and a package, and differ in what they say of them. They are written in
turns to a store that has the module already, and another. -/
theorem Writers.allWritten_run_shared_module :
    let p : Pipeline := ⟨[LineNotation.parser "lines" ["txt"]], .overwriteById⟩
    let files : Fin 2 → ProjectFiles := fun i =>
      if i = 0 then
        ⟨[⟨"a.txt", "use N\nclass N X"⟩],
          [⟨"a.csproj", "<PackageReference Include=\"J\" Version=\"1\"/>"⟩], 0⟩
      else
        ⟨[⟨"b.txt", "use N\nstruct N X\nenum N Y"⟩],
          [⟨"b.csproj", "<PackageReference Include=\"J\" Version=\"2\"/>"⟩], 0⟩
    let graphs : Fin 2 → ProjectGraph := fun i =>
      if i = 0 then
        { nodes := [⟨"p:N.X", "X", "N", .cls, "a.txt"⟩]
          edges := [.importing "p:N.X" "p:N.X"]
          packages := [.plain "J" "1"]
          filesParsed := 1
          filesSkipped := 0
          duplicates := 0
          linker := ⟨1, 1, 0, 0, 0⟩ }
      else
        { nodes := [⟨"p:N.X", "X", "N", .struct, "b.txt"⟩, ⟨"p:N.Y", "Y", "N", .enum, "b.txt"⟩]
          edges := [.importing "p:N.X" "p:N.X", .importing "p:N.X" "p:N.Y",
            .importing "p:N.Y" "p:N.X", .importing "p:N.Y" "p:N.Y"]
          packages := [.plain "J" "2"]
          filesParsed := 1
          filesSkipped := 0
          duplicates := 0
          linker := ⟨2, 4, 0, 0, 0⟩ }
    let calls : List Call :=
      [.ensureSchema, .upsert (.node ⟨"p:M.Z", "Z", "M", .other, "z.txt"⟩),
        .upsert (.node ⟨"p:N.X", "X", "N", .other, "z.txt"⟩)]
    let schedule : List (Fin 2) := [0, 1, 1, 0, 1, 0, 1, 1, 0, 1, 1, 1]
    (∀ i, p.build "p" (files i) = .ok (graphs i)) ∧
      (∀ i, (graphs i).steps.length ≤ schedule.count i) ∧
      AllWritten (Call.after MemoryStore.fresh calls).graph graphs
        ((Writers.start graphs (Call.after MemoryStore.fresh calls)).run schedule) := by
  intro p files graphs calls schedule
  have hlisted : ∀ i, p.listedGraph "p" (files i) = graphs i := by
    decide +kernel
  have hpasses : ∀ i, ∀ file ∈ (files i).sources, p.registry.passes file := by
    decide +kernel
  have hbuilt : ∀ i, p.build "p" (files i) = .ok (graphs i) := by
    intro i
    rw [Pipeline.build_eq_listedGraph "p" (hpasses i), hlisted]
  have hturns : ∀ i, (graphs i).steps.length ≤ schedule.count i := by
    decide
  exact ⟨hbuilt, hturns, allWritten_run calls (fun i => ⟨p, "p", files i, hbuilt i⟩) hturns⟩

end CodeAtlas
