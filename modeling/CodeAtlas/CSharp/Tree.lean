import CodeAtlas.Text.Blank

/-!
# Syntax trees

A syntax tree as the grammar of C# delivers it: nodes with a kind, with the piece of the source they
cover and with the field of the node around them that they stand in.
-/

namespace CodeAtlas.CSharp

structure SyntaxNode where
  kind : String
  /-- Keywords and punctuation are nodes too, but not named ones. -/
  isNamed : Bool
  field : Option String
  /-- The piece of the source that the node covers, if it can be read as text. -/
  text : Option String
  children : List SyntaxNode
  deriving Repr, Inhabited

namespace SyntaxNode

def namedChildren (node : SyntaxNode) : List SyntaxNode := node.children.filter (·.isNamed)

def childInField? (node : SyntaxNode) (field : String) : Option SyntaxNode :=
  node.children.find? (·.field == some field)

/-- What a field holds, without white space, if anything is left of it. -/
def fieldText? (node : SyntaxNode) (field : String) : Option String :=
  match node.childInField? field with
  | none => none
  | some child =>
    match child.text with
    | none => none
    | some text =>
      match Text.squeeze text.toList with
      | [] => none
      | compact => some (String.ofList compact)

/-- The body of a namespace. Where the grammar has no field for it, it is told by its kind. -/
def body? (node : SyntaxNode) : Option SyntaxNode :=
  match node.childInField? "body" with
  | some body => some body
  | none => node.namedChildren.find? (·.kind == "declaration_list")

theorem sizeOf_children_lt (node : SyntaxNode) : sizeOf node.children < sizeOf node := by
  cases node
  simp only [SyntaxNode.mk.sizeOf_spec]
  omega

theorem sizeOf_lt_of_mem_children {node child : SyntaxNode} (h : child ∈ node.children) :
    sizeOf child < sizeOf node :=
  Nat.lt_trans (List.sizeOf_lt_of_mem h) node.sizeOf_children_lt

theorem sizeOf_filter_le (p : SyntaxNode → Bool) (nodes : List SyntaxNode) :
    sizeOf (nodes.filter p) ≤ sizeOf nodes := by
  induction nodes with
  | nil => exact Nat.le_refl _
  | cons node rest ih =>
    by_cases hp : p node
    · simp only [List.filter_cons_of_pos hp, List.cons.sizeOf_spec]
      omega
    · simp only [List.filter_cons_of_neg hp, List.cons.sizeOf_spec]
      omega

theorem sizeOf_namedChildren_lt (node : SyntaxNode) :
    sizeOf node.namedChildren < sizeOf node :=
  Nat.lt_of_le_of_lt (sizeOf_filter_le (·.isNamed) node.children) node.sizeOf_children_lt

theorem mem_children_of_body? {node body : SyntaxNode} (h : node.body? = some body) :
    body ∈ node.children := by
  rw [body?] at h
  split at h
  · next hfield =>
    cases h
    exact List.mem_of_find?_eq_some hfield
  · exact (List.mem_filter.mp (List.mem_of_find?_eq_some h)).1

theorem sizeOf_namedChildren_body_lt {node body : SyntaxNode} (h : node.body? = some body) :
    sizeOf body.namedChildren < sizeOf node :=
  Nat.lt_trans body.sizeOf_namedChildren_lt (sizeOf_lt_of_mem_children (mem_children_of_body? h))

end SyntaxNode

structure Grammar where
  /-- What is wrong with the language, if a parser cannot be set to it. -/
  languageFault : Option String
  /-- The root of the tree. There is none if the parser gives up. -/
  tree? : (source : String) → Option SyntaxNode

end CodeAtlas.CSharp
