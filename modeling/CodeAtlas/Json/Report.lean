import CodeAtlas.Json.Record
import CodeAtlas.Pipeline
import CodeAtlas.Query.Engine

/-!
# Answers in JSON
-/

namespace CodeAtlas.Json

def ofReport (r : IngestReport) : Json :=
  .object [
    ("ok", .bool true), ("project", .string r.project), ("nodes", .nat r.nodes),
    ("edges", .nat r.edges), ("packages", .nat r.packages)]

def ofExplanation (e : Explanation) : Json :=
  .object [("id", .string e.id), ("explanation", .string e.explanation)]

end CodeAtlas.Json
