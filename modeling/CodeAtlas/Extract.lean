import CodeAtlas.Edge
import CodeAtlas.Source.File
import CodeAtlas.Source.Registry
import Std.Data.HashMap

/-!
# Extraction

The modules that a project's files declare, and a placeholder for every import of a declared module. A
file that no parser takes, or that cannot be parsed, is skipped; any other failure ends the
extraction.
-/

namespace CodeAtlas

/-- What becomes of a declaration whose id was declared before. -/
inductive MergePolicy where
  /-- It replaces the earlier one in its place. -/
  | overwriteById
  /-- It is dropped, and its imports with it. -/
  | keepFirst
  deriving DecidableEq, Repr, Inhabited

/-- `positions` leads from ids to positions in `nodes`. -/
structure Extraction where
  nodes : Array ModuleNode
  positions : Std.HashMap String Nat
  placeholders : Array Placeholder
  filesParsed : Nat
  filesSkipped : Nat
  duplicates : Array String

namespace Extraction

def empty : Extraction :=
  { nodes := #[], positions := ∅, placeholders := #[], filesParsed := 0, filesSkipped := 0
    duplicates := #[] }

def addImports (x : Extraction) (source : String) (imports : List String) : Extraction :=
  { x with placeholders := x.placeholders ++ (imports.map (Placeholder.mk source)).toArray }

def declaredNode (project path : String) (d : TypeDeclaration) : ModuleNode :=
  .declare project (d.nspace.getD globalNamespace) d.name d.kind path

def addNode (policy : MergePolicy) (imports : List String) (x : Extraction)
    (node : ModuleNode) : Extraction :=
  match x.positions[node.id]? with
  | none =>
    { x with
      positions := x.positions.insert node.id x.nodes.size
      nodes := x.nodes.push node }.addImports node.id imports
  | some position =>
    let x := { x with duplicates := x.duplicates.push node.id }
    match policy with
    | .overwriteById =>
      { x with nodes := x.nodes.setIfInBounds position node }.addImports node.id imports
    | .keepFirst => x

def addParsed (policy : MergePolicy) (project path : String) (x : Extraction)
    (parsed : ParsedSource) : Extraction :=
  (parsed.declarations.map (declaredNode project path)).foldl
    (addNode policy parsed.imports) { x with filesParsed := x.filesParsed + 1 }

def skipFile (x : Extraction) : Extraction := { x with filesSkipped := x.filesSkipped + 1 }

def addFile (registry : Registry) (policy : MergePolicy) (project : String) (x : Extraction)
    (file : SourceFile) : Except Error Extraction :=
  match registry.parse file.path file.text with
  | .ok (some parsed) => .ok (x.addParsed policy project file.path parsed)
  | .ok none => .ok x.skipFile
  | .error (.parse _) => .ok x.skipFile
  | .error e => .error e

end Extraction

def extract (registry : Registry) (policy : MergePolicy) (project : String)
    (files : List SourceFile) : Except Error Extraction :=
  files.foldlM (Extraction.addFile registry policy project) .empty

end CodeAtlas
