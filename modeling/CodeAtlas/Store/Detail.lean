import CodeAtlas.Module
import CodeAtlas.Package

/-!
# Module details

A module with its neighbours in both directions, and the counts of a store and of a write.
-/

namespace CodeAtlas

/-- One end of an import seen from a module: the id of the other end, and the names of both. -/
structure Relation where
  nodeId : String
  sourceName : String
  targetName : String
  deriving DecidableEq, Repr, Inhabited

structure ModuleDetail where
  id : String
  name : String
  nspace : String
  kind : ModuleKind
  filePath : String
  imports : List String
  outgoing : List Relation
  incoming : List Relation
  packageRisks : List Package
  deriving DecidableEq, Repr, Inhabited

/-- What a write submitted, and how many edges it left out for want of an endpoint. -/
structure WriteSummary where
  nodes : Nat
  edges : Nat
  edgesSkipped : Nat
  packages : Nat
  deriving DecidableEq, Repr, Inhabited

def WriteSummary.zero : WriteSummary := ⟨0, 0, 0, 0⟩

structure StoreStats where
  modules : Nat
  edges : Nat
  packages : Nat
  deriving DecidableEq, Repr, Inhabited

def StoreStats.display (s : StoreStats) : String :=
  "Graph Statistics:\n" ++
  "  Modules: " ++ toString s.modules ++ "\n" ++
  "  Edges: " ++ toString s.edges ++ "\n" ++
  "  Packages: " ++ toString s.packages ++ "\n"

end CodeAtlas
