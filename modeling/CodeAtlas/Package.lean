/-!
# Packages

Records of referenced packages, keyed by name across a whole store.
-/

namespace CodeAtlas

structure Package where
  name : String
  version : String
  risk : String
  license : Option String
  deriving DecidableEq, Repr, Inhabited

namespace Package

def unknownRisk : String := "Unknown"

def plain (name version : String) : Package :=
  { name, version, risk := unknownRisk, license := none }

def isHighRisk (p : Package) : Bool := "High".toList.isPrefixOf p.risk.toList

end Package

end CodeAtlas
