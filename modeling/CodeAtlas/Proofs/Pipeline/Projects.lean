import CodeAtlas.Proofs.Extraction.Identity
import CodeAtlas.Proofs.Pipeline.Phases
import CodeAtlas.Proofs.Store.Batch

/-!
# Projects that share a store

Where no namespace has a colon, and no name a dot, an id is read from behind: the name follows the last
dot, the namespace follows the last colon before it, and whatever is left is the project. So the graph
of one project leaves the modules of every other as they are, and with them all edges at them.
-/

namespace CodeAtlas

open Keyed Extraction

/-- Whether a namespace and a name can be read off an id. -/
def Separable (nspace name : String) : Prop :=
  ':' ∉ nspace.toList ∧ ':' ∉ name.toList ∧ '.' ∉ name.toList

instance (nspace name : String) : Decidable (Separable nspace name) :=
  inferInstanceAs (Decidable (_ ∧ _ ∧ _))

theorem moduleId_inj_of_separable {project nspace name project' nspace' name' : String}
    (h : Separable nspace name) (h' : Separable nspace' name') :
    moduleId project nspace name = moduleId project' nspace' name' ↔
      project = project' ∧ nspace = nspace' ∧ name = name' := by
  rw [moduleId_eq_iff h.2.2 h'.2.2, append_separator_inj h.1 h'.1, String.toList_inj,
    String.toList_inj, and_assoc]

def Edge.touches (id : String) (e : Edge) : Bool := decide (e.source = id ∨ e.target = id)

namespace Contents

theorem getElem?_nodes_writeAll_batch (c : Contents) {node : ModuleNode} {ns : List ModuleNode}
    (h : node.id ∉ ns.map (·.id)) (es : List Edge) (ps : List Package) (i : Nat) :
    (c.writeAll (GraphStore.batch ns es ps)).nodes[i]? = some node ↔ c.nodes[i]? = some node := by
  rw [nodes_writeAll, History.nodes_of_batch]
  exact getElem?_mergeAll_of_not_mem _ c.nodes h i

theorem filter_edges_writeAll_batch (c : Contents) {id : String} {es : List Edge}
    (h : ∀ e ∈ es, ¬ e.touches id) (ns : List ModuleNode) (ps : List Package) :
    (c.writeAll (GraphStore.batch ns es ps)).edges.filter (Edge.touches id) =
      c.edges.filter (Edge.touches id) := by
  rw [edges_writeAll c (fun id => Iff.rfl), History.acceptedAfter_batch]
  apply filter_keepAll_of_not
  intro e he
  exact h e (List.mem_of_mem_filter he)

end Contents

namespace Pipeline

variable {p : Pipeline} {project : String} {files : ProjectFiles} {graph : ProjectGraph}

theorem mem_ids_of_build (h : p.build project files = .ok graph) (id : String) :
    id ∈ graph.nodes.map (·.id) ↔
      ∃ t ∈ typesIn p.registry files.sources, t.idIn project = id := by
  obtain ⟨x, hx, hnodes, -⟩ := build_eq_ok h
  rw [hnodes, (reads_extract hx).mem_ids, map_id_declarations, List.mem_map]

theorem not_mem_ids_of_build (h : p.build project files = .ok graph)
    (htypes : ∀ t ∈ typesIn p.registry files.sources, Separable (t.nspace.getD "Global") t.name)
    {other nspace name : String} (hother : other ≠ project) (hname : Separable nspace name) :
    moduleId other nspace name ∉ graph.nodes.map (·.id) := by
  rw [mem_ids_of_build h]
  rintro ⟨t, ht, hid⟩
  exact hother ((moduleId_inj_of_separable (htypes t ht) hname).mp hid).1.symm

end Pipeline

namespace MemoryStore

open Pipeline

/-- One store holds the modules of all projects but one, and the edges at them, as another does. -/
structure KeepsOthers (project : String) (s t : MemoryStore) : Prop where
  nodes : ∀ other nspace name, other ≠ project → Separable nspace name →
    ∀ (position : Nat) (node : ModuleNode), node.id = moduleId other nspace name →
      (t.graph.nodes.toList[position]? = some node ↔
        s.graph.nodes.toList[position]? = some node)
  edges : ∀ other nspace name, other ≠ project → Separable nspace name →
    t.graph.edges.toList.filter (Edge.touches (moduleId other nspace name)) =
      s.graph.edges.toList.filter (Edge.touches (moduleId other nspace name))

theorem KeepsOthers.of_contents_eq {s t : MemoryStore} (project : String)
    (h : t.graph.contents = s.graph.contents) : KeepsOthers project s t where
  nodes _ _ _ _ _ position node _ := by
    have hnodes : t.graph.nodes.toList = s.graph.nodes.toList := congrArg Contents.nodes h
    rw [hnodes]
  edges _ _ _ _ _ := congrArg (fun c : Contents => c.edges.filter _) h

variable {p : Pipeline} {project : String} {files : ProjectFiles} {graph : ProjectGraph}

theorem KeepsOthers.of_contents_writeAll {s t : MemoryStore}
    (hbuild : p.build project files = .ok graph)
    (htypes : ∀ t ∈ typesIn p.registry files.sources, Separable (t.nspace.getD "Global") t.name)
    (h : t.graph.contents = s.graph.contents.writeAll
      (GraphStore.batch graph.nodes graph.edges graph.packages)) : KeepsOthers project s t where
  nodes other nspace name hother hname position node hid := by
    have hnode : node.id ∉ graph.nodes.map (·.id) :=
      hid ▸ not_mem_ids_of_build hbuild htypes hother hname
    have hkept := s.graph.contents.getElem?_nodes_writeAll_batch hnode graph.edges graph.packages
      position
    rwa [← h] at hkept
  edges other nspace name hother hname := by
    have hid := not_mem_ids_of_build hbuild htypes hother hname
    have hedges : ∀ e ∈ graph.edges, ¬ e.touches (moduleId other nspace name) := by
      intro e he htouches
      obtain ⟨hsource, htarget⟩ := mem_ids_of_mem_edges hbuild he
      rcases of_decide_eq_true htouches with hs | ht
      · exact hid (hs ▸ hsource)
      · exact hid (ht ▸ htarget)
    have hkept := s.graph.contents.filter_edges_writeAll_batch hedges graph.nodes graph.packages
    rwa [← h] at hkept

theorem Shows.contents_write {s : MemoryStore} {q : PlainStore} (h : Shows s q)
    (graph : ProjectGraph) :
    (Pipeline.write graph s).2.graph.contents = s.graph.contents.writeAll
      (GraphStore.batch graph.nodes graph.edges graph.packages) :=
  h.ensureSchema.contents_ingest graph.nodes graph.edges graph.packages

/-- Ids of separable names tell projects apart, and to write the graph of one project, whether the schema
is made first or not, leaves a store with the modules of all others and the edges at them. -/
theorem projects_kept_apart (calls : List Call) (hbuild : p.build project files = .ok graph)
    (htypes : ∀ t ∈ typesIn p.registry files.sources, Separable (t.nspace.getD "Global") t.name) :
    let s := Call.after fresh calls
    Set.InjOn (fun m : String × String × String => moduleId m.1 m.2.1 m.2.2)
        {m | Separable m.2.1 m.2.2} ∧
      KeepsOthers project s (Pipeline.write graph s).2 ∧
      KeepsOthers project s
        (GraphStore.ingest graph.nodes graph.edges graph.packages s).2 := by
  intro s
  have hs := Shows.simulation.after Shows.fresh calls
  refine ⟨?_, ?_, ?_⟩
  · rintro ⟨project, nspace, name⟩ hm ⟨project', nspace', name'⟩ hm' hid
    obtain ⟨rfl, rfl, rfl⟩ := (moduleId_inj_of_separable hm hm').mp hid
    rfl
  · exact .of_contents_writeAll hbuild htypes (hs.contents_write graph)
  · have hcontents := hs.contents_ingest graph.nodes graph.edges graph.packages
    by_cases hready : s.schemaReady = true
    · rw [if_pos hready] at hcontents
      exact .of_contents_writeAll hbuild htypes hcontents
    · rw [if_neg hready] at hcontents
      exact .of_contents_eq project hcontents

/-- A store has modules of two projects, and the name of one begins as an id of the other does. -/
theorem projects_kept_apart_nested_name :
    let p : Pipeline := ⟨[LineNotation.parser "lines" ["txt"]], .overwriteById⟩
    let files : ProjectFiles :=
      ⟨[⟨"a.txt", "use N\nclass b.N X\nenum - Y\nstruct N X"⟩], [], 0⟩
    let calls : List Call :=
      [.ensureSchema, .upsert (.node ⟨"a:N.X", "X", "N", .other, "z.txt"⟩),
        .upsert (.node ⟨"a:b:N.X", "X", "N", .cls, "z.txt"⟩),
        .upsert (.edge (.importing "a:b:N.X" "a:N.X"))]
    let s := Call.after fresh calls
    ∃ graph, p.build "a" files = .ok graph ∧
      (∀ t ∈ typesIn p.registry files.sources, Separable (t.nspace.getD "Global") t.name) ∧
      Set.InjOn (fun m : String × String × String => moduleId m.1 m.2.1 m.2.2)
        {m | Separable m.2.1 m.2.2} ∧
      KeepsOthers "a" s (Pipeline.write graph s).2 ∧
      KeepsOthers "a" s (GraphStore.ingest graph.nodes graph.edges graph.packages s).2 := by
  intro p files calls s
  have hbuild : ∃ graph, p.build "a" files = .ok graph := by
    rw [exists_build_iff]
    decide +kernel
  have htypes : ∀ t ∈ typesIn p.registry files.sources,
      Separable (t.nspace.getD "Global") t.name := by
    decide +kernel
  obtain ⟨graph, hgraph⟩ := hbuild
  exact ⟨graph, hgraph, htypes, projects_kept_apart calls hgraph htypes⟩

end MemoryStore

end CodeAtlas
