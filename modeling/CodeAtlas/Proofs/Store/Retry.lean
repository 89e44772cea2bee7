import CodeAtlas.Proofs.Keyed.Absorb
import CodeAtlas.Proofs.Store.Batch

/-!
# Batches that are begun and written again

Nothing undoes the writes of a batch that was cut off. Written again from its start, the batch absorbs
them: it ends with the contents and the counts of a batch that was never cut off.
-/

namespace CodeAtlas

open Keyed History

namespace Contents

variable {c : Contents} {ns : List ModuleNode} {es : List Edge} {ps : List Package}

theorem acceptedAfter_resume (h : c.WellFormed) {done : List Upsert}
    (hdone : done <+: GraphStore.batch ns es ps) :
    acceptedAfter (c.writeAll done).ids (GraphStore.batch ns es ps) =
      acceptedAfter c.ids (GraphStore.batch ns es ps) := by
  have hseen (id : String) : (id ∈ ns.map (·.id) ∨ id ∈ (c.writeAll done).ids) ↔
      (id ∈ ns.map (·.id) ∨ id ∈ c.ids) := by
    have hids : id ∈ History.ids done → id ∈ ns.map (·.id) := by
      obtain ⟨rest, hbatch⟩ := hdone
      rw [← ids_of_batch ns es ps, ← hbatch, ids_append]
      exact List.mem_append_left _
    rw [mem_ids_writeAll h]
    tauto
  rw [acceptedAfter_batch, acceptedAfter_batch]
  simp only [hseen]

theorem writeAll_resume (h : c.WellFormed) {done : List Upsert}
    (hdone : done <+: GraphStore.batch ns es ps) :
    (c.writeAll done).writeAll (GraphStore.batch ns es ps) =
      c.writeAll (GraphStore.batch ns es ps) := by
  have haccepted := acceptedAfter_resume h hdone
  generalize GraphStore.batch ns es ps = whole at hdone haccepted ⊢
  apply Contents.ext
  case nodes =>
    rw [nodes_writeAll, nodes_writeAll, nodes_writeAll]
    exact mergeAll_resume _ h.ids_nodup (hdone.filterMap node?)
  case packages =>
    rw [packages_writeAll, packages_writeAll, packages_writeAll]
    exact mergeAll_resume _ h.names_nodup (hdone.filterMap package?)
  case edges =>
    have hprefix : acceptedAfter c.ids done <+: acceptedAfter c.ids whole := by
      obtain ⟨rest, rfl⟩ := hdone
      rw [acceptedAfter_append]
      exact List.prefix_append _ _
    rw [edges_writeAll (c.writeAll done) (fun id => Iff.rfl), edges_writeAll c (fun id => Iff.rfl),
      edges_writeAll c (fun id => Iff.rfl), haccepted]
    exact keepAll_resume id c.edges hprefix

theorem summaryAfter_resume (h : c.WellFormed) {done : List Upsert}
    (hdone : done <+: GraphStore.batch ns es ps) :
    summaryAfter (c.writeAll done).ids (GraphStore.batch ns es ps) =
      summaryAfter c.ids (GraphStore.batch ns es ps) := by
  rw [summaryAfter, summaryAfter, acceptedAfter_resume h hdone]

end Contents

namespace MemoryStore

/-- Two stores hold the same nodes, edges and packages in the same order. -/
structure SameTables (s t : MemoryStore) : Prop where
  schemaReady : s.schemaReady = t.schemaReady
  nodes : s.graph.nodes = t.graph.nodes
  edges : s.graph.edges = t.graph.edges
  packages : s.graph.packages = t.graph.packages

theorem Shows.sameTables {s t : MemoryStore} {c : Contents} (hs : Shows s ⟨some c⟩)
    (ht : Shows t ⟨some c⟩) : SameTables s t := by
  have hcontents : s.graph.contents = t.graph.contents :=
    hs.graph_contents.trans ht.graph_contents.symm
  constructor
  case schemaReady => rw [hs.schemaReady, ht.schemaReady]
  case nodes => exact Array.toList_inj.mp (congrArg Contents.nodes hcontents)
  case edges => exact Array.toList_inj.mp (congrArg Contents.edges hcontents)
  case packages => exact Array.toList_inj.mp (congrArg Contents.packages hcontents)

/-- A batch that is cut off after any number of its writes and then written from its start ends as if
it had been written once. -/
theorem ingest_resume (calls : List Call) (ns : List ModuleNode) (es : List Edge)
    (ps : List Package) (k : Nat) (hready : (Call.after fresh calls).schemaReady = true) :
    let s := Call.after fresh calls
    let cut := (GraphStore.applyAll .zero s ((GraphStore.batch ns es ps).take k)).2
    ∃ summary, (GraphStore.ingest ns es ps s).1 = .ok summary ∧
      (GraphStore.ingest ns es ps cut).1 = .ok summary ∧
      SameTables (GraphStore.ingest ns es ps cut).2 (GraphStore.ingest ns es ps s).2 := by
  intro s cut
  have hdone : (GraphStore.batch ns es ps).take k <+: GraphStore.batch ns es ps :=
    List.take_prefix k _
  have hs := shows_after calls hready
  have hcut := (hs.applyAll ((GraphStore.batch ns es ps).take k)).2
  obtain ⟨honce, hwhole⟩ := hs.applyAll (GraphStore.batch ns es ps)
  obtain ⟨hagain, hresumed⟩ := hcut.applyAll (GraphStore.batch ns es ps)
  rw [Contents.summaryAfter_resume hs.wellFormed hdone] at hagain
  rw [Contents.writeAll_resume hs.wellFormed hdone] at hresumed
  exact ⟨_, honce, hagain, hresumed.sameTables hwhole⟩

/-- The batch repeats an id, an edge and a package, and has an edge without an end; it is cut off after
the second of its edges, where the store already says other things of its modules and packages. -/
theorem ingest_resume_repeats :
    let node (name file : String) : ModuleNode := ⟨name, name, "N", .cls, file⟩
    let calls : List Call :=
      [.ensureSchema, .upsert (.node (node "b" "old")), .upsert (.package (.plain "J" "0")),
        .upsert (.edge (.importing "b" "b"))]
    let ns := [node "a" "1", node "b" "2", node "a" "3"]
    let es : List Edge := [.importing "a" "b", .importing "b" "c", .importing "a" "b",
      .importing "b" "a"]
    let ps : List Package := [.plain "J" "1", .plain "K" "1", .plain "J" "2"]
    let s := Call.after fresh calls
    let cut := (GraphStore.applyAll .zero s ((GraphStore.batch ns es ps).take 5)).2
    s.schemaReady = true ∧ ∃ summary, (GraphStore.ingest ns es ps s).1 = .ok summary ∧
      (GraphStore.ingest ns es ps cut).1 = .ok summary ∧
      SameTables (GraphStore.ingest ns es ps cut).2 (GraphStore.ingest ns es ps s).2 := by
  intro node calls ns es ps s cut
  have hready : s.schemaReady = true := rfl
  exact ⟨hready, ingest_resume calls ns es ps 5 hready⟩

end MemoryStore

end CodeAtlas
