import CodeAtlas.CSharp.Collect
import CodeAtlas.Proofs.CSharp.Ways

/-!
# What a node says

The name of a node, the namespace that it opens, the body of that namespace and the type that it
declares, each told from the children of the node.
-/

namespace CodeAtlas.CSharp

def Entry.IsFirst (p : SyntaxNode → Prop) (e : Entry) : Prop :=
  p e.node ∧ ∀ other ∈ e.before, ¬ p other

namespace SyntaxNode

def Is (kind : String) (node : SyntaxNode) : Prop := node.isNamed = true ∧ node.kind = kind

def InField (field : String) (node : SyntaxNode) : Prop := node.field = some field

/-- The name that stands in the field for it. White space in it does not count, and a name of nothing
else is none. -/
def Named (node : SyntaxNode) (name : String) : Prop :=
  ∃ before child after text, node.children = before ++ child :: after ∧
    Entry.IsFirst (InField "name") ⟨before, child⟩ ∧ child.text = some text ∧
    name.toList = (text.toList.filter fun c => !Text.isBlank c) ∧ name ≠ ""

def OpensBlock (node : SyntaxNode) (name : String) : Prop :=
  node.Is "namespace_declaration" ∧ node.Named name

def OpensFile (node : SyntaxNode) (name : String) : Prop :=
  node.Is "file_scoped_namespace_declaration" ∧ node.Named name

/-- The child of a node that is the body of a namespace: the first one in the field for it, or the first
list of declarations if the node has no such field. -/
def HasBody (node : SyntaxNode) (e : Entry) : Prop :=
  e.IsFirst (InField "body") ∨
    (∀ child ∈ node.children, ¬ child.InField "body") ∧ e.IsFirst (Is "declaration_list")

end SyntaxNode

def declaredKinds : List (String × ModuleKind) := [
  ("class_declaration", .cls), ("interface_declaration", .interface), ("struct_declaration", .struct),
  ("enum_declaration", .enum), ("record_declaration", .other), ("record_struct_declaration", .other),
  ("record_class_declaration", .other)]

def SyntaxNode.DeclaresKind (node : SyntaxNode) (kind : ModuleKind) : Prop :=
  node.isNamed = true ∧ (node.kind, kind) ∈ declaredKinds

section Kinds

theorem declarationKind?_eq_some {text : String} {kind : ModuleKind} :
    declarationKind? text = some kind ↔ (text, kind) ∈ declaredKinds := by
  constructor
  · intro h
    unfold declarationKind? at h
    split at h <;> simp_all [declaredKinds]
  · intro h
    simp only [declaredKinds, List.mem_cons, Prod.mk.injEq, List.not_mem_nil, or_false] at h
    rcases h with ⟨rfl, rfl⟩ | ⟨rfl, rfl⟩ | ⟨rfl, rfl⟩ | ⟨rfl, rfl⟩ | ⟨rfl, rfl⟩ | ⟨rfl, rfl⟩ |
      ⟨rfl, rfl⟩ <;> rfl

theorem SyntaxNode.not_declaresKind {node : SyntaxNode} (h : declarationKind? node.kind = none)
    (kind : ModuleKind) : ¬ node.DeclaresKind kind := by
  intro hkind
  rw [declarationKind?_eq_some.mpr hkind.2] at h
  cases h

theorem SyntaxNode.not_opensBlock {node : SyntaxNode} (h : node.kind ≠ "namespace_declaration")
    (name : String) : ¬ node.OpensBlock name :=
  fun hopens => h hopens.1.2

theorem SyntaxNode.not_opensFile {node : SyntaxNode}
    (h : node.kind ≠ "file_scoped_namespace_declaration") (name : String) : ¬ node.OpensFile name :=
  fun hopens => h hopens.1.2

end Kinds

namespace SyntaxNode

section Fields

variable {node : SyntaxNode}

theorem childInField?_eq_some {field : String} {child : SyntaxNode} :
    node.childInField? field = some child ↔ ∃ before after, node.children = before ++ child :: after ∧
      Entry.IsFirst (InField field) ⟨before, child⟩ := by
  rw [childInField?, List.find?_eq_some_iff_append]
  simp only [Entry.IsFirst, InField, beq_iff_eq, Bool.not_eq_true', beq_eq_false_iff_ne]
  constructor
  · rintro ⟨hchild, before, after, hchildren, hbefore⟩
    exact ⟨before, after, hchildren, hchild, hbefore⟩
  · rintro ⟨before, after, hchildren, hchild, hbefore⟩
    exact ⟨hchild, before, after, hchildren, hbefore⟩

theorem childInField?_eq_none {field : String} :
    node.childInField? field = none ↔ ∀ child ∈ node.children, ¬ child.InField field := by
  simp [childInField?, InField]

theorem fieldText?_eq_some {name : String} : node.fieldText? "name" = some name ↔ node.Named name := by
  constructor
  · intro h
    rw [fieldText?] at h
    split at h
    · cases h
    · next child hchild =>
      split at h
      · cases h
      · next text htext =>
        obtain ⟨before, after, hchildren, hfirst⟩ := childInField?_eq_some.mp hchild
        cases hcompact : Text.squeeze text.toList with
        | nil => simp [hcompact] at h
        | cons c rest =>
          have hname : String.ofList (c :: rest) = name := by simpa [hcompact] using h
          have hletters : name.toList = c :: rest := by rw [← hname, String.toList_ofList]
          refine ⟨before, child, after, text, hchildren, hfirst, htext, ?_, ?_⟩
          · exact hletters.trans hcompact.symm
          · rw [Ne, ← String.toList_eq_nil_iff, hletters]
            simp
  · intro h
    obtain ⟨before, child, after, text, hchildren, hfirst, htext, hname, hne⟩ := h
    have hchild := childInField?_eq_some.mpr ⟨before, after, hchildren, hfirst⟩
    change name.toList = Text.squeeze text.toList at hname
    rw [fieldText?, hchild]
    simp only [htext]
    cases hcompact : Text.squeeze text.toList with
    | nil =>
      rw [hcompact] at hname
      exact absurd (String.toList_eq_nil_iff.mp hname) hne
    | cons c rest =>
      rw [hcompact] at hname
      simp [← hname]

theorem not_named_of_fieldText? (h : node.fieldText? "name" = none) (name : String) :
    ¬ node.Named name := by
  intro hnamed
  rw [fieldText?_eq_some.mpr hnamed] at h
  cases h

theorem Named.unique {name other : String} (h : node.Named name) (hother : node.Named other) :
    name = other := by
  have hsome := fieldText?_eq_some.mpr h
  rw [fieldText?_eq_some.mpr hother] at hsome
  exact (Option.some.inj hsome).symm

end Fields

section Bodies

variable {node : SyntaxNode}

theorem exists_of_body? {body : SyntaxNode} (h : node.body? = some body) :
    ∃ before after, node.children = before ++ body :: after ∧ node.HasBody ⟨before, body⟩ ∧
      ∀ e : Entry, e.node ∈ node.children → e.node ∈ before ∨ body ∈ e.before →
        ¬ node.HasBody e := by
  rw [body?] at h
  split at h
  · next found hfield =>
    cases h
    obtain ⟨before, after, hchildren, hfirst⟩ := childInField?_eq_some.mp hfield
    refine ⟨before, after, hchildren, Or.inl hfirst, ?_⟩
    intro e _ hplace hbody
    rcases hbody with hinField | ⟨hnone, -⟩
    · rcases hplace with hbefore | hbehind
      · exact hfirst.2 e.node hbefore hinField.1
      · exact hinField.2 body hbehind hfirst.1
    · exact hnone body (by simp [hchildren]) hfirst.1
  · next hfield =>
    have hnone := childInField?_eq_none.mp hfield
    rw [namedChildren, List.find?_filter, List.find?_eq_some_iff_append] at h
    simp only [beq_iff_eq, decide_eq_true_eq, Bool.not_eq_true', decide_eq_false_iff_not] at h
    obtain ⟨hbody, before, after, hchildren, hbefore⟩ := h
    refine ⟨before, after, hchildren, Or.inr ⟨hnone, hbody, hbefore⟩, ?_⟩
    intro e he hplace hother
    rcases hother with hinField | ⟨-, hlist⟩
    · exact hnone e.node he hinField.1
    · rcases hplace with hearlier | hbehind
      · exact hbefore e.node hearlier hlist.1
      · exact hlist.2 body hbehind hbody

theorem not_hasBody_of_body? (h : node.body? = none) {e : Entry} (he : e.node ∈ node.children) :
    ¬ node.HasBody e := by
  rw [body?] at h
  split at h
  · cases h
  · next hfield =>
    rw [namedChildren, List.find?_filter, List.find?_eq_none] at h
    intro hbody
    rcases hbody with hinField | ⟨-, hlist⟩
    · exact childInField?_eq_none.mp hfield e.node he hinField.1
    · have hlist := hlist.1
      simpa [hlist.1, hlist.2] using h e.node he

end Bodies

end SyntaxNode

end CodeAtlas.CSharp
