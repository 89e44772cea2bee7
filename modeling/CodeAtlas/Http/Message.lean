import CodeAtlas.Json.Value
import CodeAtlas.Text.Search

/-!
# Requests and responses
-/

namespace CodeAtlas.Http

abbrev Headers := List (String × String)

structure Request where
  method : String
  target : String
  contentType : Option String
  body : List UInt8
  deriving Repr

inductive Body where
  | empty
  | text (text : String)
  | json (value : Json)
  deriving Repr, Inhabited

structure Response where
  status : Nat
  headers : Headers
  body : Body
  deriving Repr, Inhabited

def Request.resource (r : Request) : List Char := r.target.toList.takeWhile (· != '#')

def Request.path (r : Request) : List Char := r.resource.takeWhile (· != '?')

def Request.query (r : Request) : List Char := (r.resource.dropWhile (· != '?')).drop 1

def Request.segments (r : Request) : List String :=
  (Text.splitAt '/' r.path).map String.ofList

namespace Response

def empty (status : Nat) : Response := { status, headers := [], body := .empty }

def json (status : Nat) (value : Json) : Response :=
  { status, headers := [("content-type", "application/json")], body := .json value }

def text (status : Nat) (text : String) : Response :=
  { status, headers := [("content-type", "text/plain; charset=utf-8")], body := .text text }

def failure (status : Nat) (message : String) : Response :=
  json status (.object [("error", .string message)])

def withHeaders (headers : Headers) (r : Response) : Response :=
  { r with headers := r.headers ++ headers }

def withoutBody (r : Response) : Response := { r with body := .empty }

end Response

end CodeAtlas.Http
