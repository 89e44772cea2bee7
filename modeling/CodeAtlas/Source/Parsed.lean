import CodeAtlas.Module

/-!
# Parsed sources

What a source file says about the module graph: the namespaces it imports, each once, and its
top-level type declarations in the order of the text.
-/

namespace CodeAtlas

structure TypeDeclaration where
  kind : ModuleKind
  nspace : Option String
  name : String
  deriving DecidableEq, Repr, Inhabited

structure ParsedSource where
  imports : List String
  declarations : List TypeDeclaration
  deriving DecidableEq, Repr, Inhabited

namespace ParsedSource

def empty : ParsedSource := { imports := [], declarations := [] }

/-- Empty imports and repeats are passed over. -/
def addImport (s : ParsedSource) (name : String) : ParsedSource :=
  if name = "" ∨ name ∈ s.imports then s else { s with imports := s.imports ++ [name] }

def addDeclaration (s : ParsedSource) (d : TypeDeclaration) : ParsedSource :=
  { s with declarations := s.declarations ++ [d] }

end ParsedSource

end CodeAtlas
