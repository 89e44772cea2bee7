import CodeAtlas.Store.Graph
import CodeAtlas.Text.Case

/-!
# The store in tables

A relational database with the tables `modules`, `edges` and `packages`. Kinds are stored as text and
read back on the way out, so a row with a foreign kind makes the read that returns it fail. Rows have
row numbers; listings are ordered by them, and an updated row keeps its own.
-/

namespace CodeAtlas

structure Row (α : Type) where
  number : Nat
  value : α
  deriving Repr

structure Table (α : Type) where
  rows : List (Row α)
  deriving Repr

namespace Table

variable {α κ : Type} [DecidableEq κ]

def empty : Table α := ⟨[]⟩

def nextNumber (t : Table α) : Nat := (t.rows.map (·.number)).foldl max 0 + 1

def insert (value : α) (t : Table α) : Table α := ⟨t.rows ++ [⟨t.nextNumber, value⟩]⟩

def hasKey (key : α → κ) (k : κ) (t : Table α) : Bool := t.rows.any fun r => key r.value = k

def upsert (key : α → κ) (value : α) (t : Table α) : Table α :=
  if t.hasKey key (key value) then
    ⟨t.rows.map fun r => if key r.value = key value then { r with value } else r⟩
  else t.insert value

def select (t : Table α) : List α :=
  (t.rows.mergeSort fun a b => a.number ≤ b.number).map (·.value)

def count (t : Table α) : Nat := t.rows.length

end Table

structure NodeRow where
  id : String
  name : String
  nspace : String
  kind : String
  filePath : String
  deriving DecidableEq, Repr

structure EdgeRow where
  source : String
  target : String
  kind : String
  deriving DecidableEq, Repr

def NodeRow.ofNode (n : ModuleNode) : NodeRow :=
  { id := n.id, name := n.name, nspace := n.nspace, kind := n.kind.label, filePath := n.filePath }

def NodeRow.toNode (r : NodeRow) : Except Error ModuleNode :=
  match ModuleKind.ofText? r.kind with
  | some kind => .ok { id := r.id, name := r.name, nspace := r.nspace, kind, filePath := r.filePath }
  | none => .error (.storage (.unreadableNodeKind r.kind))

def EdgeRow.ofEdge (e : Edge) : EdgeRow :=
  { source := e.source, target := e.target, kind := e.kind.label }

def EdgeRow.toEdge (r : EdgeRow) : Except Error Edge :=
  match EdgeKind.ofText? r.kind with
  | some kind => .ok { source := r.source, target := r.target, kind }
  | none => .error (.storage (.unreadableEdgeKind r.kind))

/-- The position of the first occurrence of `needle`, counted from one, or zero. -/
def instr (needle : List Char) : List Char → Nat
  | [] => if needle = [] then 1 else 0
  | c :: rest =>
    if needle.isPrefixOf (c :: rest) then 1
    else
      match instr needle rest with
      | 0 => 0
      | n => n + 1

structure Tables where
  modules : Table NodeRow
  edges : Table EdgeRow
  packages : Table Package
  deriving Repr

namespace Tables

def empty : Tables := { modules := .empty, edges := .empty, packages := .empty }

def hasModule (id : String) (t : Tables) : Bool := t.modules.hasKey (·.id) id

/-- Inserts an edge between stored modules unless it is there, and says whether it is there now. -/
def upsertEdge (edge : Edge) (t : Tables) : Bool × Tables :=
  let row := EdgeRow.ofEdge edge
  let present := t.edges.hasKey id row
  if t.hasModule edge.source && t.hasModule edge.target && !present then
    (true, { t with edges := t.edges.insert row })
  else (present, t)

/-- The rows of the modules that the far ends of the edges refer to, in the order of the edges. -/
def neighbours (near far : EdgeRow → String) (id : String) (t : Tables) : List NodeRow :=
  let edges := t.edges.select.filter fun e => near e = id && e.kind = EdgeKind.imports.label
  let modules := t.modules.select
  edges.flatMap fun e => modules.filter fun m => m.id = far e

def search (query : String) (limit : Nat) (t : Tables) : List NodeRow :=
  let needle := Text.lowerChars query.toList
  let hits := t.modules.select.filter fun m =>
    0 < instr needle (Text.lowerChars m.name.toList) ||
      0 < instr needle (Text.lowerChars m.nspace.toList)
  hits.take (min limit maxSearchResults)

def stats (t : Tables) : StoreStats :=
  { modules := t.modules.count, edges := t.edges.count, packages := t.packages.count }

end Tables

structure TableStore where
  tables : Option Tables
  deriving Repr

namespace TableStore

def fresh : TableStore := { tables := none }

def ensureSchema (s : TableStore) : TableStore := { tables := some (s.tables.getD .empty) }

/-- The tables, for a statement that names the given one first. -/
def withTables (first : String) (s : TableStore) : Except Error Tables :=
  match s.tables with
  | some tables => .ok tables
  | none => .error (.storage (.noSuchTable first))

def readNodes (first : String) (f : Tables → List NodeRow) (s : TableStore) :
    Except Error (List ModuleNode) := do
  let tables ← s.withTables first
  (f tables).mapM NodeRow.toNode

def getNode (id : String) (s : TableStore) : Except Error (Option ModuleNode) := do
  let tables ← s.withTables "modules"
  match tables.modules.select.find? fun m => m.id = id with
  | some row => row.toNode.map some
  | none => .ok none

def overwriteModuleKinds (kind : String) (s : TableStore) : Except Error (Nat × TableStore) := do
  let tables ← s.withTables "modules"
  let rows := tables.modules.rows.map fun r => { r with value := { r.value with kind } }
  .ok (rows.length, { tables := some { tables with modules := ⟨rows⟩ } })

/-- Overwrites the kind of every edge, unless that made two edges alike. -/
def overwriteEdgeKinds (kind : String) (s : TableStore) : Except Error (Nat × TableStore) := do
  let tables ← s.withTables "edges"
  let rows := tables.edges.rows.map fun r => { r with value := { r.value with kind } }
  if (rows.map (·.value)).Nodup then
    .ok (rows.length, { tables := some { tables with edges := ⟨rows⟩ } })
  else .error (.storage .repeatedEdge)

end TableStore

instance : GraphStore TableStore where
  ensureSchema := TableStore.ensureSchema
  upsertNode node s := do
    let tables ← s.withTables "modules"
    .ok { tables := some { tables with
      modules := tables.modules.upsert (·.id) (.ofNode node) } }
  upsertEdge edge s := do
    let tables ← s.withTables "edges"
    let (stored, tables) := tables.upsertEdge edge
    .ok (stored, { tables := some tables })
  upsertPackage package s := do
    let tables ← s.withTables "packages"
    .ok { tables := some { tables with packages := tables.packages.upsert (·.name) package } }
  getNode := TableStore.getNode
  listNodes limit :=
    TableStore.readNodes "modules" fun t => t.modules.select.take (min limit maxListedNodes)
  listEdges limit s := do
    let tables ← s.withTables "edges"
    (tables.edges.select.take (min limit maxListedEdges)).mapM EdgeRow.toEdge
  searchNodes query limit := TableStore.readNodes "modules" (Tables.search query limit)
  outgoing id := TableStore.readNodes "edges" (Tables.neighbours (·.source) (·.target) id)
  incoming id := TableStore.readNodes "edges" (Tables.neighbours (·.target) (·.source) id)
  listPackages limit s := do
    let tables ← s.withTables "packages"
    .ok (tables.packages.select.take (min limit maxListedPackages))
  stats s := do
    let tables ← s.withTables "modules"
    .ok tables.stats

end CodeAtlas
