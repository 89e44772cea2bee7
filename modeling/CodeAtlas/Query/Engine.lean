import CodeAtlas.Query.Explainer
import CodeAtlas.Store.Graph

/-!
# Queries

The questions that clients ask of a store.
-/

namespace CodeAtlas

structure Explanation where
  id : String
  explanation : String
  deriving DecidableEq, Repr, Inhabited

namespace Query

variable {σ : Type} [GraphStore σ]

def nodes (limit : Nat) (store : σ) : Except Error (List ModuleNode) :=
  GraphStore.listNodes limit store

def edges (limit : Nat) (store : σ) : Except Error (List Edge) := GraphStore.listEdges limit store

def search (query : String) (limit : Option Nat) (store : σ) :
    Except Error (List NodeSummary) :=
  (GraphStore.searchNodes query (limit.getD maxSearchResults) store).map
    (List.map ModuleNode.summary)

def moduleDetail (id : String) (store : σ) : Except Error (Option ModuleDetail) :=
  GraphStore.moduleDetail id store

/-- Nothing if the id is unknown; the explainer is asked only about known ones. -/
def explain (e : Explainer) (id : String) (store : σ) : Except Error (Option Explanation) := do
  match ← moduleDetail id store with
  | none => .ok none
  | some detail =>
    let explanation ← e.explain detail
    .ok (some { id, explanation })

def stats (store : σ) : Except Error StoreStats := GraphStore.stats store

end Query

end CodeAtlas
