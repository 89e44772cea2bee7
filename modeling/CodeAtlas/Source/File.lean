/-!
# Files of a project
-/

namespace CodeAtlas

structure SourceFile where
  path : String
  text : String
  deriving DecidableEq, Repr, Inhabited

end CodeAtlas
