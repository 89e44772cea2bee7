import CodeAtlas.Http.Encoding

/-!
# Query parameters

Parameters are read from left to right. A known one that comes twice, or that is no number where one is
expected, ends the reading; unknown ones are passed over.
-/

namespace CodeAtlas.Server

inductive QueryFault where
  | duplicateField (name : String)
  | badNumber (name : String) (why : Text.NumberFault)
  deriving DecidableEq, Repr

def QueryFault.message : QueryFault → String
  | duplicateField name =>
    "Failed to deserialize query string: duplicate field `" ++ name ++ "`"
  | badNumber name why => "Failed to deserialize query string: " ++ name ++ ": " ++ why.message

structure SearchParameters where
  query : Option String
  limit : Option Nat
  deriving DecidableEq, Repr

def maxNumber : Nat := 0xffffffffffffffff

def SearchParameters.add (p : SearchParameters) :
    String × String → Except QueryFault SearchParameters
  | ("q", value) =>
    if p.query.isSome then .error (.duplicateField "q") else .ok { p with query := some value }
  | ("limit", value) =>
    if p.limit.isSome then .error (.duplicateField "limit")
    else
      match Text.readUnsigned 10 maxNumber value.toList with
      | .ok n => .ok { p with limit := some n }
      | .error why => .error (.badNumber "limit" why)
  | _ => .ok p

def SearchParameters.read (query : List Char) : Except QueryFault SearchParameters :=
  (Http.parseForm query).foldlM SearchParameters.add { query := none, limit := none }

def addProjectName (name : Option String) : String × String → Except QueryFault (Option String)
  | ("projectName", value) =>
    if name.isSome then .error (.duplicateField "projectName") else .ok (some value)
  | _ => .ok name

def readProjectName (query : List Char) : Except QueryFault (Option String) :=
  (Http.parseForm query).foldlM addProjectName none

end CodeAtlas.Server
