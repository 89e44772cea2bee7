import CodeAtlas.CSharp.Tree
import CodeAtlas.CSharp.UsingTarget
import CodeAtlas.Error
import CodeAtlas.Source.Parsed

/-!
# Imports and declarations of a syntax tree

The imports are the using directives of the compilation unit and of file-scoped namespaces. The
declarations are the types that stand directly in the unit or in a namespace. A file-scoped namespace
holds for the members after it, up to the next one.
-/

namespace CodeAtlas.CSharp

/-- The kind of module that a node declares. Delegates, global statements and the like declare none. -/
def declarationKind? : String → Option ModuleKind
  | "class_declaration" => some .cls
  | "interface_declaration" => some .interface
  | "struct_declaration" => some .struct
  | "enum_declaration" => some .enum
  | "record_declaration" | "record_struct_declaration" | "record_class_declaration" => some .other
  | _ => none

def qualify (outer : Option String) (name : String) : String :=
  match outer with
  | some outer => outer ++ "." ++ name
  | none => name

def addUsing (out : ParsedSource) (directive : Option String) : ParsedSource :=
  match directive.bind usingTarget? with
  | some target => out.addImport target
  | none => out

def addDeclared (nspace : Option String) (out : ParsedSource) (node : SyntaxNode) : ParsedSource :=
  match declarationKind? node.kind, node.fieldText? "name" with
  | some kind, some name => out.addDeclaration { kind, nspace, name }
  | _, _ => out

/-- Collects from the named nodes of one level. `base` is the namespace around them, `file` the
file-scoped namespace met on this level so far, and `atTop` says whether using directives count. -/
def collectFrom (base file : Option String) (atTop : Bool) (out : ParsedSource) :
    List SyntaxNode → ParsedSource
  | [] => out
  | node :: rest =>
    if node.kind = "using_directive" ∧ atTop then
      collectFrom base file atTop (addUsing out node.text) rest
    else if node.kind = "namespace_declaration" then
      match node.fieldText? "name" with
      | none => collectFrom base file atTop out rest
      | some name =>
        match _h : node.body? with
        | none => collectFrom base file atTop out rest
        | some body =>
          let inner :=
            collectFrom (some (qualify (file <|> base) name)) none false out body.namedChildren
          collectFrom base file atTop inner rest
    else if node.kind = "file_scoped_namespace_declaration" then
      match node.fieldText? "name" with
      | none => collectFrom base file atTop out rest
      | some name =>
        let inner := collectFrom (some (qualify base name)) none atTop out node.namedChildren
        collectFrom base (some (qualify base name)) atTop inner rest
    else collectFrom base file atTop (addDeclared (file <|> base) out node) rest
termination_by nodes => sizeOf nodes
decreasing_by
  all_goals simp only [List.cons.sizeOf_spec]
  · omega
  · omega
  · omega
  · have hsize := SyntaxNode.sizeOf_namedChildren_body_lt _h
    omega
  · omega
  · omega
  · have hsize := node.sizeOf_namedChildren_lt
    omega
  · omega
  · omega

def collect (root : SyntaxNode) : ParsedSource :=
  collectFrom none none true .empty root.namedChildren

def parse (grammar : Grammar) (path source : String) : Except Error ParsedSource :=
  match grammar.languageFault with
  | some fault => .error (.adapter ("Failed to set language: " ++ fault))
  | none =>
    match grammar.tree? source with
    | some root => .ok (collect root)
    | none => .error (.parse ("tree-sitter produced no tree for " ++ path))

end CodeAtlas.CSharp
