import CodeAtlas.Http.Message

/-!
# Routes

The paths that are served, and the methods that each one takes.
-/

namespace CodeAtlas.Server

inductive Route where
  | health
  | nodes
  | edges
  | search
  /-- A module by its id, still encoded. -/
  | module (id : String)
  | explain (id : String)
  | upload
  deriving DecidableEq, Repr

namespace Route

def ofSegments? : List String → Option Route
  | ["", "health"] => some health
  | ["", "graph", "nodes"] => some nodes
  | ["", "graph", "edges"] => some edges
  | ["", "graph", "search"] => some search
  | ["", "graph", "module", id] => if id.isEmpty then none else some (module id)
  | ["", "explain", "module", id] => if id.isEmpty then none else some (explain id)
  | ["", "projects", "upload"] => some upload
  | _ => none

def isPosted : Route → Bool
  | explain _ | upload => true
  | _ => false

/-- A route that is read can be asked for its headers only. -/
def takes (route : Route) (method : String) : Bool :=
  if route.isPosted then method == "POST" else method == "GET" || method == "HEAD"

def allowed (route : Route) : String := if route.isPosted then "POST" else "GET,HEAD"

end Route

end CodeAtlas.Server
