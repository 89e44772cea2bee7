import CodeAtlas.Proofs.Pipeline.Parts
import CodeAtlas.Proofs.Server.Answers

/-!
# Sessions with a server

A server over a store in memory, without a summarizer, is asked one request after another. Only uploads
that are accepted count: they alone change the store, each in its turn, and every request is answered
by what the ones before it left.
-/

namespace CodeAtlas

open Http (Request Response)

def MemoryStore.ids (s : MemoryStore) : List String := s.graph.nodes.toList.map (·.id)

namespace Server

section Accepted

/-- What a request uploads that a server takes in: an archive that can be made into a graph. -/
def accepted? (p : Pipeline) (r : Request) : Option Upload :=
  if IsUpload r then
    (readUpload r).toOption.filter fun u =>
      (p.prepare u.project u.archive.toArray).toOption.isSome
  else none

theorem accepted?_eq_some_iff (p : Pipeline) (r : Request) (u : Upload) :
    accepted? p r = some u ↔
      IsUpload r ∧ u.Of r ∧ ∃ graph, p.prepare u.project u.archive.toArray = .ok graph := by
  have hprepared : (p.prepare u.project u.archive.toArray).toOption.isSome ↔
      ∃ graph, p.prepare u.project u.archive.toArray = .ok graph := by
    cases p.prepare u.project u.archive.toArray <;> simp [Except.toOption]
  rw [accepted?, ← readUpload_eq_ok_iff, ← hprepared]
  by_cases hupload : IsUpload r
  · rw [if_pos hupload, Option.filter_eq_some_iff]
    cases readUpload r with
    | error refusal => simp [Except.toOption]
    | ok u' => simp [Except.toOption, hupload]
  · rw [if_neg hupload]
    simp [hupload]

def Upload.modules (p : Pipeline) (u : Upload) : List String :=
  match p.prepare u.project u.archive.toArray with
  | .ok graph => graph.nodes.map (·.id)
  | .error _ => []

def receive (p : Pipeline) (store : MemoryStore) (u : Upload) : MemoryStore :=
  (p.ingestArchive u.project u.archive.toArray store).2

end Accepted

section Run

variable {σ : Type} [GraphStore σ]

def after (s : Server σ) (requests : List Request) : Server σ :=
  requests.foldl (fun s r => (s.respond r).2) s

def responses (s : Server σ) : List Request → List Response
  | [] => []
  | r :: requests => (s.respond r).1 :: responses (s.respond r).2 requests

theorem getElem?_responses (s : Server σ) (before rest : List Request) (r : Request) :
    (s.responses (before ++ r :: rest))[before.length]? = some ((s.after before).respond r).1 := by
  induction before generalizing s with
  | nil => rfl
  | cons first before ih => exact ih (s.respond first).2

end Run

variable {p : Pipeline} {store : MemoryStore} {plain : PlainStore} {r : Request} {u : Upload}

theorem respond_upload (hupload : IsUpload r) (hu : u.Of r) (p : Pipeline) (store : MemoryStore) :
    ((serving p store).respond r).2 = serving p (receive p store u) := by
  rw [respond_of_isUpload _ hupload, upload, readUpload_of hu]
  rfl

theorem respond_accepted (h : MemoryStore.Shows store plain) (hr : accepted? p r = some u) :
    ((serving p store).respond r).1.status = 200 ∧
      ((serving p store).respond r).2 = serving p (receive p store u) := by
  obtain ⟨hupload, hread, graph, hgraph⟩ := (accepted?_eq_some_iff p r u).mp hr
  have hreport : (p.ingestArchive u.project u.archive.toArray store).1 =
      .ok (.ofGraph u.project graph) := by
    rw [Pipeline.ingestArchive_eq, hgraph]
    exact (h.writeReporting u.project graph).1
  constructor
  · rw [(gets_upload hupload hread p store).status_eq, hreport]
    rfl
  · exact respond_upload hupload hread p store

/-- What is not accepted is an upload that is refused, or none. -/
theorem respond_not_accepted (store : MemoryStore) (hr : accepted? p r = none) :
    ((serving p store).respond r).2 = serving p store ∧
      ¬ (IsUpload r ∧ ((serving p store).respond r).1.status = 200) := by
  by_cases hupload : IsUpload r
  · cases hread : readUpload r with
    | error refusal =>
      have hstatus := status_of_refused hread
      rw [respond_of_isUpload _ hupload, upload_of_refused _ hread]
      refine ⟨rfl, fun ⟨_, hok⟩ => ?_⟩
      change refusal.status = 200 at hok
      omega
    | ok u =>
      have hu := of_readUpload hread
      cases hprepare : p.prepare u.project u.archive.toArray with
      | error e =>
        have hingest : p.ingestArchive u.project u.archive.toArray store = (.error e, store) := by
          rw [Pipeline.ingestArchive_eq, hprepare]
        constructor
        · rw [respond_upload hupload hu, receive, hingest]
        · rw [(gets_upload hupload hu p store).status_eq, hingest]
          rintro ⟨-, hok⟩
          exact status_uploadResponse_error_ne e hok
      | ok graph =>
        rw [(accepted?_eq_some_iff p r u).mpr ⟨hupload, hu, graph, hprepare⟩] at hr
        cases hr
  · exact ⟨respond_of_not_isUpload _ hupload, fun h => hupload h.1⟩

theorem shows_receive (h : MemoryStore.Shows store plain) {graph : ProjectGraph}
    (hgraph : p.prepare u.project u.archive.toArray = .ok graph) :
    MemoryStore.Shows (receive p store u) ⟨some (store.graph.contents.writeAll
      (GraphStore.batch graph.nodes graph.edges graph.packages))⟩ := by
  rw [receive, Pipeline.ingestArchive_eq, hgraph, h.graph_contents]
  exact (h.writeReporting u.project graph).2

theorem mem_ids_receive (h : MemoryStore.Shows store plain) {graph : ProjectGraph}
    (hgraph : p.prepare u.project u.archive.toArray = .ok graph) (id : String) :
    id ∈ (receive p store u).ids ↔ id ∈ store.ids ∨ id ∈ u.modules p := by
  have hcontents := (shows_receive h hgraph).graph_contents
  rw [Option.getD_some] at hcontents
  change id ∈ (receive p store u).graph.contents.ids ↔ id ∈ store.graph.contents.ids ∨ _
  rw [hcontents, Contents.mem_ids_writeAll h.wellFormed, History.ids_of_batch, Upload.modules, hgraph]

/-- How a store comes out of a session in which some uploads were accepted. -/
structure Took (p : Pipeline) (s : MemoryStore) (uploads : List Upload) (t : MemoryStore) : Prop where
  shows : ∃ plain, MemoryStore.Shows t plain
  ready_iff : t.schemaReady = true ↔ s.schemaReady = true ∨ uploads ≠ []
  mem_ids_iff : ∀ id, id ∈ t.ids ↔ id ∈ s.ids ∨ ∃ u ∈ uploads, id ∈ u.modules p

namespace Took

variable {s t : MemoryStore} {uploads : List Upload}

theorem start (h : MemoryStore.Shows s plain) : Took p s [] s where
  shows := ⟨plain, h⟩
  ready_iff := by simp
  mem_ids_iff id := by simp

theorem receive (h : Took p s uploads t) {graph : ProjectGraph}
    (hgraph : p.prepare u.project u.archive.toArray = .ok graph) :
    Took p s (uploads ++ [u]) (receive p t u) := by
  obtain ⟨plain, hshows⟩ := h.shows
  have hreceived := shows_receive hshows hgraph
  constructor
  case shows => exact ⟨_, hreceived⟩
  case ready_iff => exact iff_of_true hreceived.schemaReady (Or.inr (by simp))
  case mem_ids_iff =>
    intro id
    rw [mem_ids_receive hshows hgraph, h.mem_ids_iff, or_assoc]
    simp [or_and_right, exists_or]

end Took

structure Stands (p : Pipeline) (s : MemoryStore) (requests : List Request)
    (server : Server MemoryStore) : Prop where
  server_eq : server = serving p ((requests.filterMap (accepted? p)).foldl (receive p) s)
  took : Took p s (requests.filterMap (accepted? p)) server.store

namespace Stands

variable {s : MemoryStore} {requests : List Request} {server : Server MemoryStore}

theorem start (h : MemoryStore.Shows s plain) : Stands p s [] (serving p s) where
  server_eq := rfl
  took := .start h

theorem respond (h : Stands p s requests server) (r : Request) :
    Stands p s (requests ++ [r]) (server.respond r).2 := by
  obtain ⟨rfl, htook⟩ := h
  change Took p s _ ((requests.filterMap (accepted? p)).foldl (receive p) s) at htook
  obtain ⟨plain, hshows⟩ := htook.shows
  cases hr : accepted? p r with
  | none =>
    have huploads : (requests ++ [r]).filterMap (accepted? p) =
        requests.filterMap (accepted? p) := by
      simp [hr]
    rw [(respond_not_accepted _ hr).1]
    exact ⟨by rw [huploads], by rwa [huploads]⟩
  | some u =>
    have huploads : (requests ++ [r]).filterMap (accepted? p) =
        requests.filterMap (accepted? p) ++ [u] := by
      simp [hr]
    obtain ⟨-, -, graph, hgraph⟩ := (accepted?_eq_some_iff p r u).mp hr
    rw [(respond_accepted hshows hr).2]
    constructor
    · rw [huploads, List.foldl_concat]
    · rw [huploads]
      exact htook.receive hgraph

theorem after (h : Stands p s requests server) (more : List Request) :
    Stands p s (requests ++ more) (server.after more) := by
  induction more generalizing requests server with
  | nil => rwa [List.append_nil]
  | cons r more ih =>
    have hrun := ih (h.respond r)
    rwa [List.append_assoc] at hrun

end Stands

def AsksAbout (r : Request) (id : String) : Prop := FetchesModule r id ∨ AsksToExplain r id

/-- How requests to a server over a store are answered, and what the next one does. -/
structure Session (p : Pipeline) (s : MemoryStore) (requests : List Request)
    (server : Server MemoryStore) : Prop where
  store : server = serving p ((requests.filterMap (accepted? p)).foldl (receive p) s)
  /-- A request is answered from the store that the accepted uploads before it leave. -/
  responses : ∀ before r rest, requests = before ++ r :: rest → ∃ response,
    ((serving p s).responses requests)[before.length]? = some response ∧
      Answers p ((before.filterMap (accepted? p)).foldl (receive p) s) r response
  /-- What is accepted is told by the request alone. -/
  accepted_iff : ∀ r u, accepted? p r = some u ↔ IsUpload r ∧ u.Of r ∧
    ∃ entries, Archive.readZip u.archive.toArray = .ok entries ∧
      ∀ file ∈ entries.filterMap (ProjectFiles.source? p.registry), ∀ e, ¬ p.registry.Stops file e
  ok_iff : ∀ r, IsUpload r ∧ (server.respond r).1.status = 200 ↔ ∃ u, accepted? p r = some u
  unchanged : ∀ r, ¬ (IsUpload r ∧ (server.respond r).1.status = 200) →
    (server.respond r).2 = server
  ingested : ∀ r u, accepted? p r = some u → (server.respond r).2 =
    { server with store := (p.ingestArchive u.project u.archive.toArray server.store).2 }
  ready_iff : server.store.schemaReady = true ↔
    s.schemaReady = true ∨ requests.filterMap (accepted? p) ≠ []
  /-- A question about a module that was neither there nor uploaded finds nothing. -/
  missing_iff : server.store.schemaReady = true → ∀ r id, AsksAbout r id →
    ((server.respond r).1.status = 404 ↔
      id ∉ s.ids ∧ ∀ u ∈ requests.filterMap (accepted? p), id ∉ u.modules p)
  found_iff : server.store.schemaReady = true → ∀ r id, AsksAbout r id →
    ((server.respond r).1.status = 200 ↔
      id ∈ s.ids ∨ ∃ u ∈ requests.filterMap (accepted? p), id ∈ u.modules p)
  unready : ¬ server.store.schemaReady = true → ∀ r id, AsksAbout r id →
    (server.respond r).1.status = 500

theorem status_answerOf {t : MemoryStore} (id : String) (encode : ModuleDetail → Json) :
    (answerOf id encode (t.graph.contents.detail id)).status = if id ∈ t.ids then 200 else 404 := by
  rw [Contents.detail]
  by_cases hid : id ∈ t.ids
  · have hmem : id ∈ t.graph.contents.ids := hid
    obtain ⟨node, hnode, -⟩ := Contents.exists_getNode hmem
    rw [if_pos hid, hnode]
    rfl
  · have hnone : t.graph.contents.getNode id = none := (Keyed.lookup?_eq_none_iff _ _ _).mpr hid
    rw [if_neg hid, hnone]
    rfl

theorem status_of_ready {t : MemoryStore} (h : MemoryStore.Shows t plain)
    (hready : t.schemaReady = true) {id : String} (hr : AsksAbout r id) :
    ((serving p t).respond r).1.status = if id ∈ t.ids then 200 else 404 := by
  have hshows : MemoryStore.Shows t ⟨some t.graph.contents⟩ := by
    rwa [← h.contents_of_ready hready]
  have htells := tells_respond h hready p r
  have hdetail := hshows.moduleDetail_eq id
  cases hr with
  | inl hr =>
    obtain ⟨detail?, hdetail?, hgets⟩ := htells.module id hr
    obtain rfl := Except.ok.inj (hdetail.symm.trans hdetail?)
    rw [hgets.status_eq, status_answerOf]
  | inr hr =>
    obtain ⟨detail?, hdetail?, hgets⟩ := htells.explanation id hr
    obtain rfl := Except.ok.inj (hdetail.symm.trans hdetail?)
    rw [hgets.status_eq, status_answerOf]

theorem status_of_not_ready {t : MemoryStore} (hready : t.schemaReady = false) {id : String}
    (hr : AsksAbout r id) : ((serving p t).respond r).1.status = 500 := by
  cases hr with
  | inl hr => exact (gets_of_not_ready hready p (.module id hr)).status_eq
  | inr hr => exact (gets_of_not_ready hready p (.explanation id hr)).status_eq

theorem ok_iff_accepted (h : MemoryStore.Shows store plain) (r : Request) :
    IsUpload r ∧ ((serving p store).respond r).1.status = 200 ↔ ∃ u, accepted? p r = some u := by
  cases hr : accepted? p r with
  | none => simpa using (respond_not_accepted store hr).2
  | some u =>
    have hupload := ((accepted?_eq_some_iff p r u).mp hr).1
    simpa using And.intro hupload (respond_accepted h hr).1

theorem session_of_shows {s : MemoryStore} (h : MemoryStore.Shows s plain) (p : Pipeline)
    (requests : List Request) : Session p s requests ((serving p s).after requests) := by
  have hstands (before : List Request) : Stands p s before ((serving p s).after before) :=
    (Stands.start h).after before
  obtain ⟨hserver, htook⟩ := hstands requests
  rw [hserver] at htook ⊢
  generalize ht : (requests.filterMap (accepted? p)).foldl (receive p) s = t at htook ⊢
  change Took p s _ t at htook
  obtain ⟨plain', hshows⟩ := htook.shows
  constructor
  case store => rw [ht]
  case responses =>
    intro before r rest hsplit
    obtain ⟨hbefore, htook'⟩ := hstands before
    rw [hbefore] at htook'
    obtain ⟨_, hshows'⟩ := htook'.shows
    rw [hsplit, getElem?_responses, hbefore]
    exact ⟨_, rfl, answers_respond hshows' p r⟩
  case accepted_iff =>
    intro r u
    rw [accepted?_eq_some_iff, Pipeline.exists_prepare_iff]
  case ok_iff => exact ok_iff_accepted hshows
  case unchanged =>
    intro r hr
    rw [ok_iff_accepted hshows, not_exists] at hr
    exact (respond_not_accepted t (Option.eq_none_iff_forall_ne_some.mpr hr)).1
  case ingested => exact fun r u hr => (respond_accepted hshows hr).2
  case ready_iff => exact htook.ready_iff
  case missing_iff =>
    intro hready r id hr
    have hmissing : id ∉ t.ids ↔
        id ∉ s.ids ∧ ∀ u ∈ requests.filterMap (accepted? p), id ∉ u.modules p := by
      rw [htook.mem_ids_iff, not_or]
      simp only [not_exists, not_and]
    rw [status_of_ready hshows hready hr, ← hmissing]
    simp
  case found_iff =>
    intro hready r id hr
    rw [status_of_ready hshows hready hr, ← htook.mem_ids_iff]
    simp
  case unready =>
    intro hready r id hr
    exact status_of_not_ready (Bool.eq_false_iff.mpr hready) hr

/-- Whatever grammar reads the sources and whatever the server is asked, only the accepted uploads
count. -/
theorem session_after (grammar : CSharp.Grammar) (calls : List Call) (requests : List Request) :
    Session (.builtIn grammar) (Call.after MemoryStore.fresh calls) requests
      ((serving (.builtIn grammar) (Call.after MemoryStore.fresh calls)).after requests) :=
  session_of_shows (MemoryStore.Shows.simulation.after MemoryStore.Shows.fresh calls) _ requests

end Server

end CodeAtlas
