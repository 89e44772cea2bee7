import CodeAtlas.Http.Multipart
import CodeAtlas.Json.Report
import CodeAtlas.Server.Parameters
import CodeAtlas.Server.Route

/-!
# The graph server

Answers requests from a store. Only an upload changes it, and only one that succeeds or fails while it
writes.
-/

namespace CodeAtlas

structure Server (σ : Type) where
  store : σ
  pipeline : Pipeline
  explainer : Explainer

namespace Server

open Http (Request Response)

variable {σ : Type} [GraphStore σ]

/-- Faults of the service that explains are those of a gateway, all others the server's own. -/
def errorResponse (e : Error) : Response :=
  .failure (if e.isExternal then 502 else 500) e.message

def answer {α : Type} (encode : α → Json) : Except Error α → Response
  | .ok value => .json 200 (encode value)
  | .error e => errorResponse e

def notFound (id : String) : Response := .failure 404 ("Module not found: " ++ id)

def answerAbout {α : Type} (id : String) (encode : α → Json) :
    Except Error (Option α) → Response
  | .ok (some value) => .json 200 (encode value)
  | .ok none => notFound id
  | .error e => errorResponse e

def withId (encoded : String) (f : String → Response) : Response :=
  match Http.decodePathPart encoded with
  | some id => f id
  | none => .text 400 "Invalid URL: Invalid UTF-8 in `id`"

def healthResponse : Response :=
  .json 200 (.object [("status", .string "ok"), ("service", .string "api")])

def searchResponse (store : σ) (query : List Char) : Response :=
  match SearchParameters.read query with
  | .error fault => .text 400 fault.message
  | .ok p =>
    answer (fun hits => .array (hits.map Json.ofSummary))
      (Query.search (p.query.getD "") p.limit store)

structure Upload where
  project : String
  archive : List UInt8
  deriving DecidableEq, Repr

/-- The most bytes in the body of an upload. -/
def uploadLimit : Nat := 1024 * 1024 * 1024

def readUpload (r : Request) : Except Response Upload :=
  match readProjectName r.query with
  | .error fault => .error (.text 400 fault.message)
  | .ok name =>
    match r.contentType.bind Http.boundary? with
    | none => .error (.text 400 "Invalid `boundary` for `multipart/form-data` request")
    | some boundary =>
      let project := Text.trimmed (name.getD "")
      if project.isEmpty then .error (.failure 400 "projectName is required")
      else
        match Http.firstFileWithin uploadLimit boundary r.body with
        | .error fault => .error (.failure 400 fault.message)
        | .ok none => .error (.failure 400 "No file uploaded")
        | .ok (some archive) => .ok { project, archive }

def uploadResponse : Except Error IngestReport → Response
  | .ok report => .json 200 (Json.ofReport report)
  | .error (.archive fault) => .failure 400 ("Invalid ZIP file: " ++ fault.message)
  | .error e => errorResponse e

def upload (s : Server σ) (r : Request) : Response × Server σ :=
  match readUpload r with
  | .error refusal => (refusal, s)
  | .ok u =>
    let (report, store) := s.pipeline.ingestArchive u.project u.archive.toArray s.store
    (uploadResponse report, { s with store })

def read (s : Server σ) (r : Request) : Route → Response
  | .health => healthResponse
  | .nodes => answer (fun nodes => .array (nodes.map Json.ofNode)) (Query.nodes maxListedNodes s.store)
  | .edges => answer (fun edges => .array (edges.map Json.ofEdge)) (Query.edges maxListedEdges s.store)
  | .search => searchResponse s.store r.query
  | .module encoded =>
    withId encoded fun id => answerAbout id Json.ofDetail (Query.moduleDetail id s.store)
  | .explain encoded =>
    withId encoded fun id =>
      answerAbout id Json.ofExplanation (Query.explain s.explainer id s.store)
  | .upload => .empty 404

def handle (s : Server σ) (r : Request) (route : Route) : Response × Server σ :=
  match route with
  | .upload => s.upload r
  | route => (s.read r route, s)

def openHeaders : Http.Headers :=
  [("access-control-allow-origin", "*"), ("access-control-expose-headers", "*")]

def preflight (route : Option Route) : Response :=
  (Response.empty 200).withHeaders <|
    [("access-control-allow-origin", "*"), ("access-control-allow-methods", "*"),
      ("access-control-allow-headers", "*")] ++
    match route with
    | some route => [("allow", route.allowed)]
    | none => []

def dispatch (s : Server σ) (r : Request) : Option Route → Response × Server σ
  | none => (.empty 404, s)
  | some route =>
    if route.takes r.method then
      let (response, s) := s.handle r route
      (if r.method = "HEAD" then response.withoutBody else response, s)
    else ((Response.empty 405).withHeaders [("allow", route.allowed)], s)

def respond (s : Server σ) (r : Request) : Response × Server σ :=
  let route := Route.ofSegments? r.segments
  if r.method = "OPTIONS" then (preflight route, s)
  else
    let (response, s) := s.dispatch r route
    (response.withHeaders openHeaders, s)

def start (store : σ) (pipeline : Pipeline) (explainer : Explainer) : Server σ :=
  { store := GraphStore.ensureSchema store, pipeline, explainer }

end Server

end CodeAtlas
