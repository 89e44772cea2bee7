import CodeAtlas.Text.Case

/-!
# Modules

A module is one top-level type declaration. Its identity is derived from the project, the namespace
and the name, so that a declaration read twice addresses the same module.
-/

namespace CodeAtlas

inductive ModuleKind where
  | cls
  | interface
  | struct
  | enum
  | other
  deriving DecidableEq, Repr, Inhabited

namespace ModuleKind

def all : List ModuleKind := [cls, interface, struct, enum, other]

def label : ModuleKind → String
  | cls => "Class"
  | interface => "Interface"
  | struct => "Struct"
  | enum => "Enum"
  | other => "Other"

/-- Reads a kind in any letter case; `type` is a second word for `other`. -/
def ofText? (text : String) : Option ModuleKind :=
  match Text.lower text with
  | "class" => some cls
  | "interface" => some interface
  | "struct" => some struct
  | "enum" => some enum
  | "other" => some other
  | "type" => some other
  | _ => none

def ofLabel? (text : String) : Option ModuleKind := all.find? (·.label == text)

end ModuleKind

def globalNamespace : String := "Global"

def moduleId (project nspace name : String) : String :=
  project ++ ":" ++ nspace ++ "." ++ name

structure ModuleNode where
  id : String
  name : String
  nspace : String
  kind : ModuleKind
  filePath : String
  deriving DecidableEq, Repr, Inhabited

structure NodeSummary where
  id : String
  name : String
  nspace : String
  kind : ModuleKind
  deriving DecidableEq, Repr, Inhabited

namespace ModuleNode

def declare (project nspace name : String) (kind : ModuleKind) (filePath : String) : ModuleNode :=
  { id := moduleId project nspace name, name, nspace, kind, filePath }

def qualifiedName (n : ModuleNode) : String := n.nspace ++ "." ++ n.name

def summary (n : ModuleNode) : NodeSummary :=
  { id := n.id, name := n.name, nspace := n.nspace, kind := n.kind }

end ModuleNode

end CodeAtlas
