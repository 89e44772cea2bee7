import CodeAtlas.Module
import CodeAtlas.Text.Search

/-!
# Namespace index

The distinct namespaces of a node list in increasing order, each with the positions of its nodes. All
namespaces with a given start stand together in that order, so that they are found by a binary search
for the first of them.
-/

namespace CodeAtlas

structure NamespaceEntry where
  nspace : String
  positions : List Nat
  deriving Repr

structure NamespaceIndex where
  entries : Array NamespaceEntry
  ids : Array String
  deriving Repr

namespace NamespaceIndex

/-- Joins neighbours of one namespace into one entry. -/
def groupRuns : List (String × Nat) → List NamespaceEntry
  | [] => []
  | (nspace, position) :: rest =>
    match groupRuns rest with
    | entry :: entries =>
      if entry.nspace = nspace then ⟨nspace, position :: entry.positions⟩ :: entries
      else ⟨nspace, [position]⟩ :: entry :: entries
    | [] => [⟨nspace, [position]⟩]

def sortedNamespaces (nodes : List ModuleNode) : List (String × Nat) :=
  (nodes.map (·.nspace)).zipIdx.mergeSort fun a b => decide (a.1 ≤ b.1)

def build (nodes : List ModuleNode) : NamespaceIndex :=
  { entries := (groupRuns (sortedNamespaces nodes)).toArray
    ids := (nodes.map (·.id)).toArray }

/-- The first position from `low` on, but not beyond `high`, where `p` fails. `p` has to hold up to
some position and fail from there on. -/
def partitionFrom (entries : Array NamespaceEntry) (p : NamespaceEntry → Bool)
    (low high : Nat) : Nat :=
  if low < high then
    let middle := (low + high) / 2
    match entries[middle]? with
    | none => low
    | some entry =>
      if p entry then partitionFrom entries p (middle + 1) high
      else partitionFrom entries p low middle
  else low
termination_by high - low

def partitionPoint (entries : Array NamespaceEntry) (p : NamespaceEntry → Bool) : Nat :=
  partitionFrom entries p 0 entries.size

/-- The ids of the nodes whose namespace starts with `start`, in the order of the node list, and at
most `limit` of them. -/
def prefixMatches (index : NamespaceIndex) (start : String) (limit : Nat) : List String :=
  let first := partitionPoint index.entries fun entry => decide (entry.nspace < start)
  let run := (index.entries.toList.drop first).takeWhile fun entry =>
    Text.startsWith start entry.nspace
  let positions := (run.flatMap (·.positions)).mergeSort fun a b => decide (a ≤ b)
  (positions.take limit).filterMap fun position => index.ids[position]?

def namespaceCount (index : NamespaceIndex) : Nat := index.entries.size

def size (index : NamespaceIndex) : Nat := index.ids.size

def isEmpty (index : NamespaceIndex) : Bool := index.ids.isEmpty

end NamespaceIndex

end CodeAtlas
