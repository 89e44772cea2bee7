import CodeAtlas.Text.Case

/-!
# Edges

Modules are joined by one relationship: the file of the source imports a namespace that contains the
target. Before it is resolved, an import is a placeholder that still holds the namespace as text.
-/

namespace CodeAtlas

inductive EdgeKind where
  | imports
  deriving DecidableEq, Repr, Inhabited, Hashable

namespace EdgeKind

def all : List EdgeKind := [imports]

def label : EdgeKind → String
  | imports => "IMPORTS"

def ofText? (text : String) : Option EdgeKind :=
  match Text.upper text with
  | "IMPORTS" => some imports
  | "IMPORT" => some imports
  | _ => none

def ofLabel? (text : String) : Option EdgeKind := all.find? (·.label == text)

end EdgeKind

/-- A resolved edge between two module ids. Its identity is the whole triple. -/
structure Edge where
  source : String
  target : String
  kind : EdgeKind
  deriving DecidableEq, Repr, Inhabited, Hashable

namespace Edge

def importing (source target : String) : Edge := { source, target, kind := .imports }

def isSelfLoop (e : Edge) : Bool := e.source == e.target

end Edge

/-- An import of a module's file whose targets are not yet known. -/
structure Placeholder where
  source : String
  imported : String
  deriving DecidableEq, Repr, Inhabited

end CodeAtlas
