import CodeAtlas.Proofs.Pipeline.Phases
import CodeAtlas.Proofs.Server.Requests
import CodeAtlas.Proofs.Store.Detail

/-!
# What a server answers

A read is answered by what the store lists, finds or tells of a module, and every read fails until there
is a schema. An upload is answered by the outcome of its ingest.
-/

namespace CodeAtlas.Server

open Http (Request Response)

def serving (p : Pipeline) (store : MemoryStore) : Server MemoryStore :=
  { store, pipeline := p, explainer := .disabled }

def errorAnswer (status : Nat) (message : String) : Response :=
  .json status (.object [("error", .string message)])

def answerOf (id : String) (encode : ModuleDetail → Json) : Option ModuleDetail → Response
  | some detail => .json 200 (encode detail)
  | none => errorAnswer 404 ("Module not found: " ++ id)

/-- How reads are answered once there is a schema. -/
structure Tells (t : MemoryStore) (r : Request) (response : Response) : Prop where
  nodes : Fetches r ["", "graph", "nodes"] → ∃ nodes, GraphStore.listNodes 1000 t = .ok nodes ∧
    Gets r response (.json 200 (.array (nodes.map Json.ofNode)))
  edges : Fetches r ["", "graph", "edges"] → ∃ edges, GraphStore.listEdges 5000 t = .ok edges ∧
    Gets r response (.json 200 (.array (edges.map Json.ofEdge)))
  search : Fetches r ["", "graph", "search"] → ∀ q : SearchParameters, q.Of r.query →
    ∃ hits, GraphStore.searchNodes (q.query.getD "") (q.limit.getD 50) t = .ok hits ∧
      Gets r response (.json 200 (.array ((hits.map (·.summary)).map Json.ofSummary)))
  module : ∀ id, FetchesModule r id → ∃ detail?, GraphStore.moduleDetail id t = .ok detail? ∧
    Gets r response (answerOf id Json.ofDetail detail?)
  explanation : ∀ id, AsksToExplain r id → ∃ detail?, GraphStore.moduleDetail id t = .ok detail? ∧
    Gets r response (answerOf id (fun detail => .object [("id", .string id),
      ("explanation", .string detail.localExplanation)]) detail?)

inductive Reads (r : Request) : Prop
  | nodes (h : Fetches r ["", "graph", "nodes"])
  | edges (h : Fetches r ["", "graph", "edges"])
  | search (h : Fetches r ["", "graph", "search"]) (q : SearchParameters) (hq : q.Of r.query)
  | module (id : String) (h : FetchesModule r id)
  | explanation (id : String) (h : AsksToExplain r id)

/-- How a server over a store answers a request. -/
structure Answers (p : Pipeline) (t : MemoryStore) (r : Request) (response : Response) : Prop where
  ready : t.schemaReady = true → Tells t r response
  unready : t.schemaReady = false → Reads r →
    Gets r response (errorAnswer 500 "Schema not initialized; call ensure_schema first")
  unreadable : Fetches r ["", "graph", "search"] → (∀ q : SearchParameters, ¬ q.Of r.query) →
    response.status = 400
  ingested : ∀ u : Upload, IsUpload r → u.Of r → ∀ report,
    (p.ingestArchive u.project u.archive.toArray t).1 = .ok report →
      Gets r response (.json 200 (.object [("ok", .bool true), ("project", .string report.project),
        ("nodes", .nat report.nodes), ("edges", .nat report.edges),
        ("packages", .nat report.packages)]))
  noArchive : ∀ u : Upload, IsUpload r → u.Of r → ∀ fault,
    (p.ingestArchive u.project u.archive.toArray t).1 = .error (.archive fault) →
      Gets r response (errorAnswer 400 ("Invalid ZIP file: " ++ fault.message))
  failed : ∀ u : Upload, IsUpload r → u.Of r → ∀ e, (∀ fault, e ≠ .archive fault) →
    (p.ingestArchive u.project u.archive.toArray t).1 = .error e →
      Gets r response (errorAnswer (if e.isExternal then 502 else 500) e.message)
  refused : IsUpload r → (∀ u : Upload, ¬ u.Of r) → response.status = 400

variable {p : Pipeline} {t : MemoryStore} {plain : PlainStore} {r : Request} {u : Upload}

section Reads

variable (s : Server MemoryStore)

theorem Fetches.gets_nodes (h : Fetches r ["", "graph", "nodes"]) :
    Gets r (s.respond r).1 (answer (fun nodes => .array (nodes.map Json.ofNode))
      (GraphStore.listNodes 1000 s.store)) := by
  have hroute : Route.ofSegments? ["", "graph", "nodes"] = some .nodes := rfl
  exact Fetches.gets h s hroute rfl

theorem Fetches.gets_edges (h : Fetches r ["", "graph", "edges"]) :
    Gets r (s.respond r).1 (answer (fun edges => .array (edges.map Json.ofEdge))
      (GraphStore.listEdges 5000 s.store)) := by
  have hroute : Route.ofSegments? ["", "graph", "edges"] = some .edges := rfl
  exact Fetches.gets h s hroute rfl

theorem Fetches.gets_search (h : Fetches r ["", "graph", "search"]) :
    Gets r (s.respond r).1 (searchResponse s.store r.query) := by
  have hroute : Route.ofSegments? ["", "graph", "search"] = some .search := rfl
  exact Fetches.gets h s hroute rfl

theorem searchResponse_of {q : SearchParameters} (hq : q.Of r.query) :
    searchResponse s.store r.query = answer
      (fun hits => .array ((hits.map (·.summary)).map Json.ofSummary))
      (GraphStore.searchNodes (q.query.getD "") (q.limit.getD 50) s.store) := by
  rw [searchResponse, (SearchParameters.read_eq_ok_iff r.query q).mpr hq]
  change answer _ ((GraphStore.searchNodes (q.query.getD "") (q.limit.getD 50) s.store).map _) = _
  cases GraphStore.searchNodes (q.query.getD "") (q.limit.getD 50) s.store <;> rfl

theorem status_searchResponse_of_unreadable (h : ∀ q : SearchParameters, ¬ q.Of r.query) :
    (searchResponse s.store r.query).status = 400 := by
  rw [searchResponse]
  cases hread : SearchParameters.read r.query with
  | error fault => rfl
  | ok q => exact absurd ((SearchParameters.read_eq_ok_iff r.query q).mp hread) (h q)

end Reads

section Ready

theorem answerAbout_of_ok (id : String) (encode : ModuleDetail → Json)
    {outcome : Except Error (Option ModuleDetail)} {detail? : Option ModuleDetail}
    (h : outcome = .ok detail?) : answerAbout id encode outcome = answerOf id encode detail? := by
  rw [h]
  cases detail? <;> rfl

theorem answerAbout_explain_disabled (id : String) {detail? : Option ModuleDetail}
    (h : GraphStore.moduleDetail id t = .ok detail?) :
    answerAbout id Json.ofExplanation (Query.explain .disabled id t) =
      answerOf id (fun detail => .object [("id", .string id),
        ("explanation", .string detail.localExplanation)]) detail? := by
  rw [Query.explain, Query.moduleDetail, h]
  cases detail? <;> rfl

theorem Gets.of_ready {α : Type} {encode : α → Json} {response : Response} (f : Graph → α)
    (hready : t.schemaReady = true)
    (h : Gets r response (answer encode (MemoryStore.read f t))) :
    MemoryStore.read f t = .ok (f t.graph) ∧ Gets r response (.json 200 (encode (f t.graph))) := by
  have hread : MemoryStore.read f t = .ok (f t.graph) := if_pos hready
  rw [hread] at h
  exact ⟨hread, h⟩

/-- Every read of a store with a schema succeeds. -/
theorem tells_respond (h : MemoryStore.Shows t plain) (hready : t.schemaReady = true)
    (p : Pipeline) (r : Request) : Tells t r ((serving p t).respond r).1 := by
  have hshows : MemoryStore.Shows t ⟨some t.graph.contents⟩ := by
    rwa [← h.contents_of_ready hready]
  constructor
  case nodes =>
    intro hr
    exact ⟨_, (hr.gets_nodes (serving p t)).of_ready
      (fun g => g.nodes.toList.take (min 1000 maxListedNodes)) hready⟩
  case edges =>
    intro hr
    exact ⟨_, (hr.gets_edges (serving p t)).of_ready
      (fun g => g.edges.toList.take (min 5000 maxListedEdges)) hready⟩
  case search =>
    intro hr q hq
    have hgets := hr.gets_search (serving p t)
    rw [searchResponse_of _ hq] at hgets
    exact ⟨_, hgets.of_ready (Graph.search (q.query.getD "") (q.limit.getD 50)) hready⟩
  case module =>
    intro id hr
    have hdetail := hshows.moduleDetail_eq id
    have hgets := hr.gets (serving p t)
    change Gets r _ (answerAbout id _ (GraphStore.moduleDetail id t)) at hgets
    rw [answerAbout_of_ok id _ hdetail] at hgets
    exact ⟨_, hdetail, hgets⟩
  case explanation =>
    intro id hr
    have hdetail := hshows.moduleDetail_eq id
    have hgets := hr.gets (serving p t)
    change Gets r _ (answerAbout id _ (Query.explain .disabled id t)) at hgets
    rw [answerAbout_explain_disabled id hdetail] at hgets
    exact ⟨_, hdetail, hgets⟩

end Ready

section Unready

theorem Gets.of_not_ready {α : Type} {encode : α → Json} {response : Response} (f : Graph → α)
    (hready : t.schemaReady = false)
    (h : Gets r response (answer encode (MemoryStore.read f t))) :
    Gets r response (errorAnswer 500 "Schema not initialized; call ensure_schema first") := by
  rwa [MemoryStore.read, hready, if_neg Bool.false_ne_true] at h

theorem gets_of_not_ready (hready : t.schemaReady = false) (p : Pipeline) (hr : Reads r) :
    Gets r ((serving p t).respond r).1
      (errorAnswer 500 "Schema not initialized; call ensure_schema first") := by
  have hdetail (id : String) : GraphStore.moduleDetail id t = .error .schemaMissing := by
    have hget : GraphStore.getNode id t = .error .schemaMissing := by
      change MemoryStore.read (Graph.getNode id) t = _
      rw [MemoryStore.read, hready, if_neg Bool.false_ne_true]
    rw [GraphStore.moduleDetail, hget]
    rfl
  cases hr with
  | nodes h =>
    exact (h.gets_nodes (serving p t)).of_not_ready
      (fun g => g.nodes.toList.take (min 1000 maxListedNodes)) hready
  | edges h =>
    exact (h.gets_edges (serving p t)).of_not_ready
      (fun g => g.edges.toList.take (min 5000 maxListedEdges)) hready
  | search h q hq =>
    have hgets := h.gets_search (serving p t)
    rw [searchResponse_of _ hq] at hgets
    exact hgets.of_not_ready (Graph.search (q.query.getD "") (q.limit.getD 50)) hready
  | module id h =>
    have hgets := h.gets (serving p t)
    change Gets r _ (answerAbout id _ (GraphStore.moduleDetail id t)) at hgets
    rwa [hdetail] at hgets
  | explanation id h =>
    have hgets := h.gets (serving p t)
    change Gets r _ (answerAbout id _ (Query.explain .disabled id t)) at hgets
    rw [Query.explain, Query.moduleDetail, hdetail] at hgets
    exact hgets

end Unready

section Uploads

theorem gets_upload (hupload : IsUpload r) (hr : u.Of r) (p : Pipeline) (t : MemoryStore) :
    Gets r ((serving p t).respond r).1
      (uploadResponse (p.ingestArchive u.project u.archive.toArray t).1) := by
  have hhead : ¬ r.method = "HEAD" := by simp [hupload.2]
  rw [respond_of_isUpload _ hupload, upload, readUpload_of hr]
  exact ⟨rfl, (if_neg hhead).symm⟩

theorem status_of_unreadable (hupload : IsUpload r) (hr : ∀ u : Upload, ¬ u.Of r) (p : Pipeline)
    (t : MemoryStore) : ((serving p t).respond r).1.status = 400 := by
  cases hread : readUpload r with
  | error refusal =>
    have hstatus := status_of_refused hread
    rw [respond_of_isUpload _ hupload, upload_of_refused _ hread]
    exact hstatus
  | ok u => exact absurd (of_readUpload hread) (hr u)

end Uploads

theorem answers_respond (h : MemoryStore.Shows t plain) (p : Pipeline) (r : Request) :
    Answers p t r ((serving p t).respond r).1 := by
  constructor
  case ready => exact fun hready => tells_respond h hready p r
  case unready => exact fun hready hr => gets_of_not_ready hready p hr
  case unreadable =>
    intro hr hunreadable
    rw [(hr.gets_search (serving p t)).status_eq]
    exact status_searchResponse_of_unreadable _ hunreadable
  case ingested =>
    intro u hupload hr report hreport
    have hgets := gets_upload hupload hr p t
    rw [hreport] at hgets
    exact hgets
  case noArchive =>
    intro u hupload hr fault hfault
    have hgets := gets_upload hupload hr p t
    rwa [hfault] at hgets
  case failed =>
    intro u hupload hr e hother herror
    have hgets := gets_upload hupload hr p t
    rw [herror] at hgets
    cases e with
    | archive fault => exact absurd rfl (hother fault)
    | _ => exact hgets
  case refused => exact fun hupload hr => status_of_unreadable hupload hr p t

end CodeAtlas.Server
