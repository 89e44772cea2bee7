import CodeAtlas.Proofs.Store.Batch
import CodeAtlas.Proofs.Store.Detail

/-!
# Details that are read while others write

The details of a module are made of four reads, and other clients may write between them. Each part of
the answer is then that of some state, but the answer as a whole may be that of none: a module that is
renamed after it was read still has its old name where it imports itself by the new one.
-/

namespace CodeAtlas

/-- What other clients write around the reads of one question for details. -/
structure Disturbance where
  before : List Upsert
  afterNode : List Upsert
  afterTargets : List Upsert
  afterSources : List Upsert
  afterPackages : List Upsert

namespace Disturbance

open GraphStore

section Reads

variable {σ : Type} [GraphStore σ]

def writes (d : Disturbance) : List Upsert :=
  d.before ++ (d.afterNode ++ (d.afterTargets ++ (d.afterSources ++ d.afterPackages)))

def passed (s : σ) (writes : List Upsert) : σ := Call.after s (writes.map .upsert)

def atNode (d : Disturbance) (s : σ) : σ := passed s d.before

def atTargets (d : Disturbance) (s : σ) : σ := passed (d.atNode s) d.afterNode

def atSources (d : Disturbance) (s : σ) : σ := passed (d.atTargets s) d.afterTargets

def atPackages (d : Disturbance) (s : σ) : σ := passed (d.atSources s) d.afterSources

/-- The answer to the question, each part of it from the state that its read sees. -/
def moduleDetail (d : Disturbance) (id : String) (s : σ) : Except Error (Option ModuleDetail) := do
  match ← getNode id (d.atNode s) with
  | none => .ok none
  | some node =>
    let targets ← outgoing id (d.atTargets s)
    let sources ← incoming id (d.atSources s)
    let packages ← listPackages detailPackageLimit (d.atPackages s)
    .ok (some (assembleDetail node targets sources packages))

theorem moduleDetail_of_calm (before after : List Upsert) (id : String) (s : σ) :
    moduleDetail ⟨before, [], [], [], after⟩ id s = GraphStore.moduleDetail id (passed s before) :=
  rfl

end Reads

/-- A state shows what each of the reads sees. -/
@[mk_iff] structure SeenIn (d : Disturbance) (id : String) (s t : MemoryStore) : Prop where
  node : getNode id t = getNode id (d.atNode s)
  targets : (outgoing id t).map (List.map (·.label)) =
    (outgoing id (d.atTargets s)).map (List.map (·.label))
  sources : (incoming id t).map (List.map (·.label)) =
    (incoming id (d.atSources s)).map (List.map (·.label))
  packages : listPackages detailPackageLimit t = listPackages detailPackageLimit (d.atPackages s)

/-- What can be relied on when a question is disturbed. -/
structure Answers (d : Disturbance) (id : String) (s : MemoryStore) : Prop where
  answered : ∃ detail?, d.moduleDetail id s = .ok detail?
  /-- The answer is that of a state just if there is no module or one state shows all that was seen. -/
  atomic_iff : (∃ done, done <+: d.writes ∧
      d.moduleDetail id s = GraphStore.moduleDetail id (passed s done)) ↔
    getNode id (d.atNode s) = .ok none ∨
      ∃ done, done <+: d.writes ∧ d.SeenIn id s (passed s done)
  /-- Neighbours from the first state on are told, and all that are told are there in the end. -/
  outgoing_between : ∀ detail, d.moduleDetail id s = .ok (some detail) →
    ∃ first last, outgoing id (d.atNode s) = .ok first ∧ outgoing id (passed s d.writes) = .ok last ∧
      first.map (·.id) <+: detail.outgoing.map (·.nodeId) ∧
        detail.outgoing.map (·.nodeId) <+: last.map (·.id)
  incoming_between : ∀ detail, d.moduleDetail id s = .ok (some detail) →
    ∃ first last, incoming id (d.atNode s) = .ok first ∧ incoming id (passed s d.writes) = .ok last ∧
      first.map (·.id) <+: detail.incoming.map (·.nodeId) ∧
        detail.incoming.map (·.nodeId) <+: last.map (·.id)

def nodeContents (d : Disturbance) (c : Contents) : Contents := c.writeAll d.before

def targetsContents (d : Disturbance) (c : Contents) : Contents :=
  (d.nodeContents c).writeAll d.afterNode

def sourcesContents (d : Disturbance) (c : Contents) : Contents :=
  (d.targetsContents c).writeAll d.afterTargets

def packagesContents (d : Disturbance) (c : Contents) : Contents :=
  (d.sourcesContents c).writeAll d.afterSources

theorem writeAll_writes_eq_targets (d : Disturbance) (c : Contents) : c.writeAll d.writes =
    (d.targetsContents c).writeAll (d.afterTargets ++ (d.afterSources ++ d.afterPackages)) := by
  rw [writes, Contents.writeAll_append, Contents.writeAll_append]
  rfl

theorem writeAll_writes_eq_sources (d : Disturbance) (c : Contents) : c.writeAll d.writes =
    (d.sourcesContents c).writeAll (d.afterSources ++ d.afterPackages) := by
  rw [writeAll_writes_eq_targets, Contents.writeAll_append]
  rfl

theorem sourcesContents_eq (d : Disturbance) (c : Contents) :
    d.sourcesContents c = (d.nodeContents c).writeAll (d.afterNode ++ d.afterTargets) := by
  rw [Contents.writeAll_append]
  rfl

section Shows

open MemoryStore

variable {d : Disturbance} {id : String} {s : MemoryStore} {c : Contents}

theorem shows_passed (h : Shows s ⟨some c⟩) (writes : List Upsert) :
    Shows (passed s writes) ⟨some (c.writeAll writes)⟩ :=
  shows_after_upserts h writes

theorem shows_atNode (h : Shows s ⟨some c⟩) : Shows (d.atNode s) ⟨some (d.nodeContents c)⟩ :=
  shows_passed h d.before

theorem shows_atTargets (h : Shows s ⟨some c⟩) :
    Shows (d.atTargets s) ⟨some (d.targetsContents c)⟩ :=
  shows_passed (shows_atNode h) d.afterNode

theorem shows_atSources (h : Shows s ⟨some c⟩) :
    Shows (d.atSources s) ⟨some (d.sourcesContents c)⟩ :=
  shows_passed (shows_atTargets h) d.afterTargets

theorem shows_atPackages (h : Shows s ⟨some c⟩) :
    Shows (d.atPackages s) ⟨some (d.packagesContents c)⟩ :=
  shows_passed (shows_atSources h) d.afterSources

theorem moduleDetail_eq (h : Shows s ⟨some c⟩) (d : Disturbance) (id : String) :
    d.moduleDetail id s = .ok (((d.nodeContents c).getNode id).map fun node =>
      assembleDetail node ((d.targetsContents c).targetsOf id) ((d.sourcesContents c).sourcesOf id)
        ((d.packagesContents c).packages.take (min detailPackageLimit maxListedPackages))) := by
  rw [moduleDetail, (shows_atNode h).getNode_eq, (shows_atTargets h).outgoing_eq,
    (shows_atSources h).incoming_eq, (shows_atPackages h).listPackages_eq]
  cases (d.nodeContents c).getNode id with
  | none => rfl
  | some node => rfl

theorem seenIn_iff_eq (h : Shows s ⟨some c⟩) {node : ModuleNode}
    (hnode : (d.nodeContents c).getNode id = some node) {t : MemoryStore} {c' : Contents}
    (ht : Shows t ⟨some c'⟩) :
    d.SeenIn id s t ↔ d.moduleDetail id s = GraphStore.moduleDetail id t := by
  rw [moduleDetail_eq h, ht.moduleDetail_eq, hnode, Option.map_some, Except.ok.injEq, eq_comm,
    Contents.detail_eq_some_iff, seenIn_iff, ht.getNode_eq, ht.outgoing_eq, ht.incoming_eq,
    ht.listPackages_eq, (shows_atNode h).getNode_eq, (shows_atTargets h).outgoing_eq,
    (shows_atSources h).incoming_eq, (shows_atPackages h).listPackages_eq, hnode]
  simp only [Except.ok.injEq, Except.map]

theorem ids_of_detail (h : Shows s ⟨some c⟩) {detail : ModuleDetail}
    (hdetail : d.moduleDetail id s = .ok (some detail)) :
    detail.outgoing.map (·.nodeId) = ((d.targetsContents c).targetsOf id).map (·.id) ∧
      detail.incoming.map (·.nodeId) = ((d.sourcesContents c).sourcesOf id).map (·.id) := by
  rw [moduleDetail_eq h, Except.ok.injEq, Option.map_eq_some_iff] at hdetail
  obtain ⟨node, -, rfl⟩ := hdetail
  simp [assembleDetail]

end Shows

/-- Whatever is written around its reads, a question for details is answered, and its answer is that of
one state just where one state shows all that its reads saw. -/
theorem disturbed_answers (calls : List Call)
    (hready : (Call.after MemoryStore.fresh calls).schemaReady = true) (d : Disturbance)
    (id : String) : d.Answers id (Call.after MemoryStore.fresh calls) := by
  have h := MemoryStore.shows_after calls hready
  generalize Call.after MemoryStore.fresh calls = s at h
  generalize s.graph.contents = c at h
  have hnode : (d.nodeContents c).WellFormed := (shows_atNode h).wellFormed_contents
  constructor
  case answered => exact ⟨_, moduleDetail_eq h d id⟩
  case atomic_iff =>
    cases hget : (d.nodeContents c).getNode id with
    | none =>
      have hnone : getNode id (d.atNode s) = .ok none := by
        rw [(shows_atNode h).getNode_eq, hget]
      refine iff_of_true ⟨d.before, List.prefix_append _ _, ?_⟩ (Or.inl hnone)
      change d.moduleDetail id s = GraphStore.moduleDetail id (d.atNode s)
      rw [moduleDetail_eq h, (shows_atNode h).moduleDetail_eq, Contents.detail, hget]
      rfl
    | some node =>
      have hsome : ¬ getNode id (d.atNode s) = .ok none := by
        rw [(shows_atNode h).getNode_eq, hget]
        simp
      rw [or_iff_right hsome]
      apply exists_congr
      intro done
      exact and_congr_right fun _ => (seenIn_iff_eq h hget (shows_passed h done)).symm
  case outgoing_between =>
    intro detail hdetail
    refine ⟨_, _, (shows_atNode h).outgoing_eq id, (shows_passed h d.writes).outgoing_eq id, ?_⟩
    rw [(ids_of_detail h hdetail).1, writeAll_writes_eq_targets]
    exact ⟨hnode.targetsOf_prefix id _, (shows_atTargets h).wellFormed_contents.targetsOf_prefix id _⟩
  case incoming_between =>
    intro detail hdetail
    refine ⟨_, _, (shows_atNode h).incoming_eq id, (shows_passed h d.writes).incoming_eq id, ?_⟩
    rw [(ids_of_detail h hdetail).2, writeAll_writes_eq_sources]
    constructor
    · rw [sourcesContents_eq]
      exact hnode.sourcesOf_prefix id _
    · exact (shows_atSources h).wellFormed_contents.sourcesOf_prefix id _

/-- While the details of a module are read, the module it imports is renamed and comes to import it. -/
theorem disturbed_answers_renamed_neighbour :
    let node (id name : String) : ModuleNode := ⟨id, name, "N", .cls, "a.txt"⟩
    let calls : List Call := [.ensureSchema, .upsert (.node (node "a" "A")),
      .upsert (.node (node "b" "B")), .upsert (.edge (.importing "a" "b"))]
    let d : Disturbance :=
      { before := []
        afterNode := [.node (node "b" "C"), .edge (.importing "b" "a")]
        afterTargets := []
        afterSources := [.package (.plain "J" "1")]
        afterPackages := [] }
    (Call.after MemoryStore.fresh calls).schemaReady = true ∧
      d.Answers "a" (Call.after MemoryStore.fresh calls) := by
  intro node calls d
  have hready : (Call.after MemoryStore.fresh calls).schemaReady = true := rfl
  exact ⟨hready, disturbed_answers calls hready d "a"⟩

/-- A module that imports itself is renamed once it was read. The answer has both names, and no state
has. -/
theorem moduleDetail_torn :
    let node (name : String) : ModuleNode := ⟨"a", name, "N", .cls, "a.txt"⟩
    let detail (name source target : String) : ModuleDetail :=
      { id := "a", name, nspace := "N", kind := .cls, filePath := "a.txt", imports := [target]
        outgoing := [⟨"a", name, target⟩], incoming := [⟨"a", source, name⟩], packageRisks := [] }
    let s := Call.after MemoryStore.fresh [.ensureSchema, .upsert (.node (node "A1")),
      .upsert (.edge (.importing "a" "a"))]
    let d : Disturbance :=
      { before := []
        afterNode := [.node (node "A2")]
        afterTargets := []
        afterSources := []
        afterPackages := [] }
    s.schemaReady = true ∧ d.moduleDetail "a" s = .ok (some (detail "A1" "A2" "A2")) ∧
      ∀ done, done <+: d.writes →
        GraphStore.moduleDetail "a" (passed s done) ≠ d.moduleDetail "a" s := by
  intro node detail s d
  let history : List Upsert := [.node (node "A1"), .edge (.importing "a" "a")]
  have h : MemoryStore.Shows s ⟨some (Contents.empty.writeAll history)⟩ :=
    MemoryStore.shows_after_upserts MemoryStore.Shows.ready history
  have hanswer : d.moduleDetail "a" s = .ok (some (detail "A1" "A2" "A2")) := by
    rw [moduleDetail_eq h]
    decide
  refine ⟨rfl, hanswer, ?_⟩
  intro done hdone
  rw [hanswer, (shows_passed h done).moduleDetail_eq]
  obtain rfl | ⟨rest, rfl, hrest⟩ := List.prefix_cons_iff.mp hdone
  · decide
  · obtain rfl := List.prefix_nil.mp hrest
    decide

end Disturbance

end CodeAtlas
