import CodeAtlas.Edge
import CodeAtlas.Linker.NamespaceIndex
import Std.Data.HashSet

/-!
# Import linking

An import stands for every node whose namespace starts with the imported text. Each placeholder
becomes edges to the first of those nodes, up to a cap; an edge that was made before is counted and
not made again.
-/

namespace CodeAtlas

def maxTargetsPerImport : UInt64 := 20

structure LinkStats where
  placeholders : Nat
  resolved : Nat
  /-- Targets whose edge was there already. -/
  duplicates : Nat
  unresolved : Nat
  /-- Placeholders with more targets than the cap allows. -/
  truncated : Nat
  deriving DecidableEq, Repr, Inhabited

def LinkStats.display (s : LinkStats) : String :=
  "Import Linker Stats:\n" ++
  "  Placeholders: " ++ toString s.placeholders ++ "\n" ++
  "  ✅ Resolved edges: " ++ toString s.resolved ++ "\n" ++
  "  🔁 Duplicates: " ++ toString s.duplicates ++ "\n" ++
  "  🌍 Unresolved: " ++ toString s.unresolved ++ "\n" ++
  "  ✂\ufe0f  Truncated: " ++ toString s.truncated ++ "\n"

/-- The edges made so far, also as a set, and the counts of what was not made. -/
structure LinkState where
  edges : Array Edge
  seen : Std.HashSet Edge
  duplicates : Nat
  unresolved : Nat
  truncated : Nat

namespace LinkState

def empty : LinkState :=
  { edges := #[], seen := ∅, duplicates := 0, unresolved := 0, truncated := 0 }

def addEdge (s : LinkState) (edge : Edge) : LinkState :=
  if s.seen.contains edge then { s with duplicates := s.duplicates + 1 }
  else { s with seen := s.seen.insert edge, edges := s.edges.push edge }

/-- Links one placeholder. One target more than the cap is asked for, so as to see whether there are
more; the sum is taken in the width of the cap. -/
def addPlaceholder (index : NamespaceIndex) (maxTargets : UInt64) (s : LinkState)
    (placeholder : Placeholder) : LinkState :=
  let targets := index.prefixMatches placeholder.imported (maxTargets + 1).toNat
  if targets.isEmpty then { s with unresolved := s.unresolved + 1 }
  else
    let s := if maxTargets.toNat < targets.length then { s with truncated := s.truncated + 1 } else s
    (targets.take maxTargets.toNat).foldl
      (fun s target => s.addEdge (.importing placeholder.source target)) s

end LinkState

def link (nodes : List ModuleNode) (maxTargets : UInt64) (placeholders : List Placeholder) :
    List Edge × LinkStats :=
  let index := NamespaceIndex.build nodes
  let s := placeholders.foldl (LinkState.addPlaceholder index maxTargets) .empty
  (s.edges.toList,
    { placeholders := placeholders.length, resolved := s.edges.size, duplicates := s.duplicates
      unresolved := s.unresolved, truncated := s.truncated })

end CodeAtlas
