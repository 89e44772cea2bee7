import CodeAtlas.Edge
import CodeAtlas.Store.Detail
import CodeAtlas.Terminal.Table

/-!
# Listings of the graph
-/

namespace CodeAtlas.Terminal

def nodesTable (nodes : List ModuleNode) : String :=
  table ["Id", "Kind", "File"] (nodes.map fun n => [n.id, n.kind.label, n.filePath])

def edgesTable (edges : List Edge) : String :=
  table ["Source", "Target"] (edges.map fun e => [e.source, e.target])

def packagesTable (packages : List Package) : String :=
  table ["Package", "Version", "Risk", "License"]
    (packages.map fun p => [p.name, p.version, p.risk, p.license.getD "-"])

def metricsTable (metrics : List (String × String)) : String :=
  if metrics.isEmpty then ""
  else table ["Metric", "Value"] (metrics.map fun (name, value) => [name, value])

def statsTable (s : StoreStats) : String :=
  metricsTable [("Modules", toString s.modules), ("Edges", toString s.edges),
    ("Packages", toString s.packages)]

end CodeAtlas.Terminal
