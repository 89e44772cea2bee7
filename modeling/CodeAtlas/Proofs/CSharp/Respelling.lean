import CodeAtlas.Proofs.CSharp.Reports

/-!
# Ways to write a namespace

A namespace with a dotted name may be written as one namespace inside another, a namespace may be
divided, and one that ends a file may be written without braces. The same is collected.
-/

namespace CodeAtlas.CSharp

section Places

/-- In one place of a tree, however deep, some nodes have been replaced. With them the pieces of the
source change that the nodes around the place cover, but not names and using directives. -/
inductive Replaced (R : List SyntaxNode → List SyntaxNode → Prop) :
    List SyntaxNode → List SyntaxNode → Prop where
  | here {xs ys : List SyntaxNode} (before after : List SyntaxNode) (h : R xs ys) :
      Replaced R (before ++ xs ++ after) (before ++ ys ++ after)
  | inside (before after : List SyntaxNode) {node node' : SyntaxNode}
      (h : Replaced R node.children node'.children) (hkind : node.kind = node'.kind)
      (hnamed : node.isNamed = node'.isNamed) (hfield : node.field = node'.field)
      (htext : node.InField "name" ∨ node.kind = "using_directive" → node.text = node'.text) :
      Replaced R (before ++ node :: after) (before ++ node' :: after)

/-- A member of a namespace stands in no field of its own. -/
def SyntaxNode.Loose (node : SyntaxNode) : Prop := ¬ node.InField "name" ∧ ¬ node.InField "body"

def SyntaxNode.IsLooseBlock (node : SyntaxNode) : Prop :=
  node.Loose ∧ node.Is "namespace_declaration"

def SyntaxNode.Holds (node : SyntaxNode) (members : List SyntaxNode) : Prop :=
  ∃ body, node.body? = some body ∧ body.namedChildren = members

def SyntaxNode.IsMember (node : SyntaxNode) : Prop :=
  node.kind = "using_directive" ∨ node.kind = "namespace_declaration" ∨
    node.kind = "file_scoped_namespace_declaration" ∨ ∃ kind, (node.kind, kind) ∈ declaredKinds

end Places

/-- Other ways to write a block namespace, by the names that are left without white space. -/
inductive Respells : List SyntaxNode → List SyntaxNode → Prop where
  | nested {whole outer inner : SyntaxNode} {a c : String} {body : List SyntaxNode}
      (hloose : whole.Loose ∧ outer.Loose) (hwhole : whole.OpensBlock (a ++ "." ++ c))
      (houter : outer.OpensBlock a) (hinner : inner.OpensBlock c) (hbody : whole.Holds body)
      (haround : outer.Holds [inner]) (hinside : inner.Holds body) : Respells [whole] [outer]
  | divided {whole front rest : SyntaxNode} {first second : List SyntaxNode}
      (hblocks : ∀ node ∈ [whole, front, rest], node.IsLooseBlock)
      (hnames : ∀ name, (front.Named name ↔ whole.Named name) ∧ (rest.Named name ↔ whole.Named name))
      (hwhole : whole.Holds (first ++ second)) (hfront : front.Holds first) (hrest : rest.Holds second)
      (hfree : ∀ node ∈ first ++ second, ∀ name, ¬ node.OpensFile name) :
      Respells [whole] [front, rest]

section Append

/-- The file-scoped namespace that holds behind a node, where another one held before it. -/
def fileBehind (base file : Option String) (node : SyntaxNode) : Option String :=
  if node.kind = "file_scoped_namespace_declaration" then
    (node.fieldText? "name").map (qualify base) <|> file
  else file

def collectNode (base file : Option String) (atTop : Bool) (out : ParsedSource) (node : SyntaxNode) :
    ParsedSource :=
  if node.kind = "using_directive" ∧ atTop then addUsing out node.text
  else if node.kind = "namespace_declaration" then
    match node.fieldText? "name", node.body? with
    | some name, some body =>
      collectFrom (some (qualify (file <|> base) name)) none false out body.namedChildren
    | _, _ => out
  else if node.kind = "file_scoped_namespace_declaration" then
    match node.fieldText? "name" with
    | some name => collectFrom (some (qualify base name)) none atTop out node.namedChildren
    | none => out
  else addDeclared (file <|> base) out node

theorem collectFrom_cons (base file : Option String) (atTop : Bool) (out : ParsedSource)
    (node : SyntaxNode) (rest : List SyntaxNode) : collectFrom base file atTop out (node :: rest) =
      collectFrom base (fileBehind base file node) atTop (collectNode base file atTop out node)
        rest := by
  rw [collectFrom.eq_2, fileBehind, collectNode]
  by_cases huse : node.kind = "using_directive" ∧ atTop = true
  · simp [huse]
  · by_cases hblock : node.kind = "namespace_declaration"
    · cases hname : node.fieldText? "name" with
      | none => simp [hblock]
      | some name =>
        rw [if_neg huse, if_neg huse, if_pos hblock, if_pos hblock, if_neg (by simp [hblock])]
        simp only
        split <;> simp [*]
    · by_cases hfile : node.kind = "file_scoped_namespace_declaration"
      · cases hname : node.fieldText? "name" <;> simp [hfile]
      · simp [huse, hblock, hfile]

def fileAfter (base file : Option String) (nodes : List SyntaxNode) : Option String :=
  nodes.foldl (fileBehind base) file

theorem fileAfter_of_free {nodes : List SyntaxNode} (h : ∀ node ∈ nodes, ∀ base file,
    fileBehind base file node = file) (base file : Option String) : fileAfter base file nodes = file := by
  induction nodes generalizing file with
  | nil => rfl
  | cons node rest ih =>
    have hrest := ih (fun other hother => h other (List.mem_cons_of_mem node hother)) file
    rw [fileAfter, List.foldl_cons, h node List.mem_cons_self]
    exact hrest

theorem fileBehind_of_kind {node : SyntaxNode} (h : node.kind ≠ "file_scoped_namespace_declaration")
    (base file : Option String) : fileBehind base file node = file := by
  rw [fileBehind, if_neg h]

theorem fileBehind_of_free {node : SyntaxNode} (hnamed : node.isNamed = true)
    (h : ∀ name, ¬ node.OpensFile name) (base file : Option String) :
    fileBehind base file node = file := by
  by_cases hkind : node.kind = "file_scoped_namespace_declaration"
  · cases hname : node.fieldText? "name" with
    | none => simp [fileBehind, hname]
    | some name =>
      exact absurd ⟨⟨hnamed, hkind⟩, SyntaxNode.fieldText?_eq_some.mp hname⟩ (h name)
  · exact fileBehind_of_kind hkind base file

theorem collectFrom_append (base file : Option String) (atTop : Bool) (out : ParsedSource)
    (xs ys : List SyntaxNode) : collectFrom base file atTop out (xs ++ ys) =
      collectFrom base (fileAfter base file xs) atTop (collectFrom base file atTop out xs) ys := by
  induction xs generalizing file out with
  | nil => simp [collectFrom, fileAfter]
  | cons node xs ih =>
    rw [List.cons_append, collectFrom_cons, ih, collectFrom_cons base file atTop out node xs]
    rfl

theorem collectFrom_singleton (base file : Option String) (atTop : Bool) (out : ParsedSource)
    (node : SyntaxNode) :
    collectFrom base file atTop out [node] = collectNode base file atTop out node := by
  rw [collectFrom_cons, collectFrom.eq_1]

end Append

section Alike

/-- Nodes that read alike when they are looked up in the node around them. -/
structure LookAlike (node node' : SyntaxNode) : Prop where
  text : node.InField "name" → node.text = node'.text
  inside : ∀ base atTop out, collectFrom base none atTop out node.namedChildren =
    collectFrom base none atTop out node'.namedChildren

theorem LookAlike.refl (node : SyntaxNode) : LookAlike node node := ⟨fun _ => rfl, fun _ _ _ => rfl⟩

def BothAlike (found found' : Option SyntaxNode) : Prop :=
  (found = none ∧ found' = none) ∨
    ∃ node node', found = some node ∧ found' = some node' ∧ LookAlike node node'

theorem BothAlike.refl (found : Option SyntaxNode) : BothAlike found found := by
  cases found with
  | none => exact Or.inl ⟨rfl, rfl⟩
  | some node => exact Or.inr ⟨node, node, rfl, rfl, .refl node⟩

theorem BothAlike.or {found found' other other' : Option SyntaxNode} (h : BothAlike found found')
    (h' : BothAlike other other') : BothAlike (found.or other) (found'.or other') := by
  rcases h with ⟨rfl, rfl⟩ | ⟨node, node', rfl, rfl, hlike⟩
  · simpa using h'
  · exact Or.inr ⟨node, node', rfl, rfl, hlike⟩

def FirstAlike (p : SyntaxNode → Bool) (xs ys : List SyntaxNode) : Prop :=
  BothAlike (xs.find? p) (ys.find? p)

theorem FirstAlike.append {p : SyntaxNode → Bool} {xs ys xs' ys' : List SyntaxNode}
    (h : FirstAlike p xs ys) (h' : FirstAlike p xs' ys') : FirstAlike p (xs ++ xs') (ys ++ ys') := by
  rw [FirstAlike, List.find?_append, List.find?_append]
  exact h.or h'

theorem FirstAlike.singleton {p : SyntaxNode → Bool} {node node' : SyntaxNode}
    (hp : p node = p node') (h : LookAlike node node') : FirstAlike p [node] [node'] := by
  rw [FirstAlike, List.find?_singleton, List.find?_singleton, ← hp]
  by_cases hnode : p node
  · exact Or.inr ⟨node, node', by simp [hnode], by simp [hnode], h⟩
  · exact Or.inl ⟨by simp [hnode], by simp [hnode]⟩

def isBodyList (node : SyntaxNode) : Bool := node.isNamed && node.kind == "declaration_list"

/-- Nodes that are collected alike on every level, leave the same file-scoped namespace and give the
node around them the same name and a like body. -/
structure Alike (xs ys : List SyntaxNode) : Prop where
  collected : ∀ base file atTop out, collectFrom base file atTop out (xs.filter (·.isNamed)) =
    collectFrom base file atTop out (ys.filter (·.isNamed))
  behind : ∀ base file, fileAfter base file (xs.filter (·.isNamed)) =
    fileAfter base file (ys.filter (·.isNamed))
  name : FirstAlike (·.field == some "name") xs ys
  body : FirstAlike (·.field == some "body") xs ys
  list : FirstAlike isBodyList xs ys

namespace Alike

variable {xs ys xs' ys' : List SyntaxNode}

theorem refl (nodes : List SyntaxNode) : Alike nodes nodes :=
  ⟨fun _ _ _ _ => rfl, fun _ _ => rfl, .refl _, .refl _, .refl _⟩

theorem append (h : Alike xs ys) (h' : Alike xs' ys') : Alike (xs ++ xs') (ys ++ ys') where
  collected := by
    intro base file atTop out
    rw [List.filter_append, List.filter_append, collectFrom_append, collectFrom_append, h.collected,
      h.behind, h'.collected]
  behind := by
    intro base file
    have hfront := h.behind base file
    have hrest := h'.behind base
    simp only [fileAfter, List.filter_append, List.foldl_append] at hfront hrest ⊢
    rw [hfront, hrest]
  name := h.name.append h'.name
  body := h.body.append h'.body
  list := h.list.append h'.list

theorem frame (h : Alike xs ys) (before after : List SyntaxNode) :
    Alike (before ++ xs ++ after) (before ++ ys ++ after) :=
  ((refl before).append h).append (refl after)

variable {node node' : SyntaxNode}

theorem fieldText?_eq (h : Alike node.children node'.children) :
    node.fieldText? "name" = node'.fieldText? "name" := by
  rw [SyntaxNode.fieldText?, SyntaxNode.fieldText?, SyntaxNode.childInField?, SyntaxNode.childInField?]
  rcases h.name with ⟨hnone, hnone'⟩ | ⟨child, child', hchild, hchild', hlike⟩
  · rw [hnone, hnone']
  · have hfield : child.field = some "name" := by simpa using List.find?_some hchild
    rw [hchild, hchild']
    simp only [hlike.text hfield]

theorem body?_alike (h : Alike node.children node'.children) : BothAlike node.body? node'.body? := by
  have hbody (node : SyntaxNode) : node.body? =
      (node.children.find? (·.field == some "body")).or (node.children.find? isBodyList) := by
    have hlist : node.namedChildren.find? (·.kind == "declaration_list") =
        node.children.find? isBodyList := by
      rw [SyntaxNode.namedChildren, List.find?_filter]
      congr 1
      funext child
      by_cases hkind : child.kind = "declaration_list" <;> simp [isBodyList, hkind]
    rw [SyntaxNode.body?, SyntaxNode.childInField?, hlist]
    cases node.children.find? (·.field == some "body") <;> rfl
  rw [hbody, hbody]
  exact h.body.or h.list

theorem collectNode_eq (h : Alike node.children node'.children) (hkind : node.kind = node'.kind)
    (htext : node.kind = "using_directive" → node.text = node'.text) (base file : Option String)
    (atTop : Bool) (out : ParsedSource) :
    collectNode base file atTop out node = collectNode base file atTop out node' := by
  have hname := h.fieldText?_eq
  rw [collectNode, collectNode, ← hkind, ← hname]
  by_cases huse : node.kind = "using_directive" ∧ atTop = true
  · rw [if_pos huse, if_pos huse, htext huse.1]
  · rw [if_neg huse, if_neg huse]
    split
    · rcases h.body?_alike with ⟨hnone, hnone'⟩ | ⟨body, body', hbody, hbody', hlike⟩
      · rw [hnone, hnone']
      · rw [hbody, hbody']
        cases node.fieldText? "name" with
        | none => rfl
        | some name => exact hlike.inside _ false out
    · split
      · cases node.fieldText? "name" with
        | none => rfl
        | some name => exact h.collected _ none atTop out
      · rw [addDeclared, addDeclared, hkind, hname]

theorem inside (h : Alike node.children node'.children) (hkind : node.kind = node'.kind)
    (hnamed : node.isNamed = node'.isNamed) (hfield : node.field = node'.field)
    (htext : node.InField "name" ∨ node.kind = "using_directive" → node.text = node'.text) :
    Alike [node] [node'] := by
  have hcollected := h.collectNode_eq hkind fun huse => htext (Or.inr huse)
  have hlike : LookAlike node node' :=
    ⟨fun hname => htext (Or.inl hname), fun base atTop out => h.collected base none atTop out⟩
  have hbehind (base file : Option String) : fileBehind base file node = fileBehind base file node' := by
    rw [fileBehind, fileBehind, hkind, h.fieldText?_eq]
  constructor
  case collected =>
    intro base file atTop out
    by_cases hnode : node.isNamed
    · have hnode' : node'.isNamed := hnamed ▸ hnode
      simp [hnode, hnode', collectFrom_singleton, hcollected]
    · have hnode' : ¬ node'.isNamed := hnamed ▸ hnode
      simp [hnode, hnode']
  case behind =>
    intro base file
    by_cases hnode : node.isNamed
    · have hnode' : node'.isNamed := hnamed ▸ hnode
      simp [hnode, hnode', fileAfter, hbehind]
    · have hnode' : ¬ node'.isNamed := hnamed ▸ hnode
      simp [hnode, hnode']
  case name => exact .singleton (by rw [hfield]) hlike
  case body => exact .singleton (by rw [hfield]) hlike
  case list => exact .singleton (by rw [isBodyList, isBodyList, hkind, hnamed]) hlike

end Alike

theorem Replaced.alike {R : List SyntaxNode → List SyntaxNode → Prop}
    (hR : ∀ xs ys, R xs ys → Alike xs ys) {xs ys : List SyntaxNode} (h : Replaced R xs ys) :
    Alike xs ys := by
  induction h with
  | here before after h => exact (hR _ _ h).frame before after
  | inside before after _ hkind hnamed hfield htext ih =>
    simpa using (ih.inside hkind hnamed hfield htext).frame before after

end Alike

section Blocks

variable {nodes : List SyntaxNode}

theorem filter_of_blocks (h : ∀ node ∈ nodes, node.IsLooseBlock) :
    nodes.filter (·.isNamed) = nodes := by
  rw [List.filter_eq_self]
  intro node hnode
  exact (h node hnode).2.1

theorem fileAfter_of_blocks (h : ∀ node ∈ nodes, node.IsLooseBlock) (base file : Option String) :
    fileAfter base file nodes = file := by
  refine fileAfter_of_free ?_ base file
  intro node hnode
  exact fileBehind_of_kind (by simp [(h node hnode).2.2])

theorem find?_of_blocks (h : ∀ node ∈ nodes, node.IsLooseBlock) :
    nodes.find? (·.field == some "name") = none ∧ nodes.find? (·.field == some "body") = none ∧
      nodes.find? isBodyList = none := by
  simp only [List.find?_eq_none, beq_iff_eq]
  refine ⟨fun node hnode => (h node hnode).1.1, fun node hnode => (h node hnode).1.2, ?_⟩
  intro node hnode
  simp [isBodyList, (h node hnode).2.2]

theorem Alike.of_blocks {xs ys : List SyntaxNode} (hxs : ∀ node ∈ xs, node.IsLooseBlock)
    (hys : ∀ node ∈ ys, node.IsLooseBlock) (hcollected : ∀ base file atTop out,
      collectFrom base file atTop out xs = collectFrom base file atTop out ys) : Alike xs ys := by
  obtain ⟨hname, hbody, hlist⟩ := find?_of_blocks hxs
  obtain ⟨hname', hbody', hlist'⟩ := find?_of_blocks hys
  constructor
  case collected =>
    intro base file atTop out
    rw [filter_of_blocks hxs, filter_of_blocks hys, hcollected]
  case behind =>
    intro base file
    rw [filter_of_blocks hxs, filter_of_blocks hys, fileAfter_of_blocks hxs, fileAfter_of_blocks hys]
  case name => exact Or.inl ⟨hname, hname'⟩
  case body => exact Or.inl ⟨hbody, hbody'⟩
  case list => exact Or.inl ⟨hlist, hlist'⟩

end Blocks

section Namespaces

variable {node : SyntaxNode} {name : String} {members : List SyntaxNode}

theorem SyntaxNode.Holds.isNamed (h : node.Holds members) {member : SyntaxNode}
    (hmember : member ∈ members) : member.isNamed = true := by
  obtain ⟨body, -, rfl⟩ := h
  exact (List.mem_filter.mp hmember).2

theorem collectNode_block (hopens : node.OpensBlock name) (hholds : node.Holds members)
    (base file : Option String) (atTop : Bool) (out : ParsedSource) :
    collectNode base file atTop out node =
      collectFrom (some (qualify (file <|> base) name)) none false out members := by
  obtain ⟨body, hbody, rfl⟩ := hholds
  have hname := SyntaxNode.fieldText?_eq_some.mpr hopens.2
  simp [collectNode, hopens.1.2, hname, hbody]

theorem collectNode_unnamed_block (hkind : node.Is "namespace_declaration")
    (hname : ∀ name, ¬ node.Named name) (base file : Option String) (atTop : Bool)
    (out : ParsedSource) : collectNode base file atTop out node = out := by
  have hnone : node.fieldText? "name" = none := by
    rw [Option.eq_none_iff_forall_ne_some]
    intro name hname'
    exact hname name (SyntaxNode.fieldText?_eq_some.mp hname')
  simp [collectNode, hkind.2, hnone]

theorem qualify_dotted (around : Option String) (a c : String) :
    qualify around (a ++ "." ++ c) = qualify (some (qualify around a)) c := by
  cases around <;> simp [qualify, String.append_assoc]

theorem collectFrom_divided {whole front rest : SyntaxNode} {first second : List SyntaxNode}
    (hblocks : ∀ node ∈ [whole, front, rest], node.IsLooseBlock)
    (hnames : ∀ name, (front.Named name ↔ whole.Named name) ∧ (rest.Named name ↔ whole.Named name))
    (hwhole : whole.Holds (first ++ second)) (hfront : front.Holds first) (hrest : rest.Holds second)
    (hfree : ∀ node ∈ first ++ second, ∀ name, ¬ node.OpensFile name) (base file : Option String)
    (atTop : Bool) (out : ParsedSource) :
    collectFrom base file atTop out [whole] = collectFrom base file atTop out [front, rest] := by
  simp only [List.mem_cons, List.not_mem_nil, or_false, forall_eq_or_imp, forall_eq] at hblocks
  obtain ⟨⟨-, hkind⟩, ⟨-, hkindFront⟩, ⟨-, hkindRest⟩⟩ := hblocks
  have hbehind : fileBehind base file front = file := fileBehind_of_kind (by simp [hkindFront.2]) _ _
  rw [collectFrom_singleton, collectFrom_cons, hbehind, collectFrom_singleton]
  by_cases hnamed : ∃ name, whole.Named name
  · obtain ⟨name, hname⟩ := hnamed
    have hopens : whole.OpensBlock name := ⟨hkind, hname⟩
    have hopensFront : front.OpensBlock name := ⟨hkindFront, (hnames name).1.mpr hname⟩
    have hopensRest : rest.OpensBlock name := ⟨hkindRest, (hnames name).2.mpr hname⟩
    have hafter : ∀ base file, fileAfter base file first = file := by
      apply fileAfter_of_free
      intro node hnode
      exact fileBehind_of_free (hfront.isNamed hnode) (hfree node (List.mem_append_left second hnode))
    rw [collectNode_block hopens hwhole, collectNode_block hopensFront hfront,
      collectNode_block hopensRest hrest, collectFrom_append, hafter]
  · have hanon (name : String) : ¬ whole.Named name := fun hname => hnamed ⟨name, hname⟩
    rw [collectNode_unnamed_block hkind hanon,
      collectNode_unnamed_block hkindFront fun name h => hanon name ((hnames name).1.mp h),
      collectNode_unnamed_block hkindRest fun name h => hanon name ((hnames name).2.mp h)]

theorem Respells.alike {xs ys : List SyntaxNode} (h : Respells xs ys) : Alike xs ys := by
  cases h with
  | @nested whole outer inner a c body hloose hwhole houter hinner hbody haround hinside =>
    apply Alike.of_blocks
    · simpa using ⟨hloose.1, hwhole.1⟩
    · simpa using ⟨hloose.2, houter.1⟩
    · intro base file atTop out
      rw [collectFrom_singleton, collectFrom_singleton, collectNode_block hwhole hbody,
        collectNode_block houter haround, collectFrom_singleton, collectNode_block hinner hinside,
        qualify_dotted]
      rfl
  | @divided whole front rest first second hblocks hnames hwhole hfront hrest hfree =>
    apply Alike.of_blocks
    · intro node hnode
      exact hblocks node (by simp_all)
    · intro node hnode
      exact hblocks node (List.mem_cons_of_mem whole hnode)
    · exact collectFrom_divided hblocks hnames hwhole hfront hrest hfree

theorem collectFrom_eq_of_enclosing {base base' file file' : Option String}
    {nodes : List SyntaxNode} (henclosing : (file <|> base) = (file' <|> base'))
    (hnamed : ∀ node ∈ nodes, node.isNamed = true)
    (hfree : ∀ node ∈ nodes, node.kind ≠ "using_directive" ∧ ∀ name, ¬ node.OpensFile name)
    (atTop atTop' : Bool) (out : ParsedSource) :
    collectFrom base file atTop out nodes = collectFrom base' file' atTop' out nodes := by
  induction nodes generalizing out with
  | nil => rw [collectFrom.eq_1, collectFrom.eq_1]
  | cons node rest ih =>
    have hisNamed := hnamed node List.mem_cons_self
    obtain ⟨huse, hopens⟩ := hfree node List.mem_cons_self
    have hrest (out : ParsedSource) := ih (fun other h => hnamed other (List.mem_cons_of_mem node h))
      (fun other h => hfree other (List.mem_cons_of_mem node h)) out
    have hnode : collectNode base file atTop out node = collectNode base' file' atTop' out node := by
      have hno (top : Bool) : ¬ (node.kind = "using_directive" ∧ top = true) := fun h => huse h.1
      rw [collectNode, collectNode, if_neg (hno atTop), if_neg (hno atTop'), henclosing]
      by_cases hfile : node.kind = "file_scoped_namespace_declaration"
      · cases hname : node.fieldText? "name" with
        | none => simp [hfile]
        | some name =>
          exact absurd ⟨⟨hisNamed, hfile⟩, SyntaxNode.fieldText?_eq_some.mp hname⟩ (hopens name)
      · rw [if_neg hfile, if_neg hfile]
    rw [collectFrom_cons, collectFrom_cons, fileBehind_of_free hisNamed hopens,
      fileBehind_of_free hisNamed hopens, hnode, hrest]

theorem collectFrom_of_not_isMember {nodes : List SyntaxNode} (h : ∀ node ∈ nodes, ¬ node.IsMember)
    (base file : Option String) (atTop : Bool) (out : ParsedSource) :
    collectFrom base file atTop out nodes = out := by
  induction nodes with
  | nil => rw [collectFrom.eq_1]
  | cons node rest ih =>
    have hnode := h node List.mem_cons_self
    simp only [SyntaxNode.IsMember, not_or, not_exists] at hnode
    obtain ⟨huse, hblock, hfile, hkinds⟩ := hnode
    have hkind : declarationKind? node.kind = none := by
      rw [Option.eq_none_iff_forall_ne_some]
      intro kind hsome
      exact hkinds kind (declarationKind?_eq_some.mp hsome)
    have hsame : collectNode base file atTop out node = out := by
      simp [collectNode, huse, hblock, hfile, addDeclared, hkind]
    rw [collectFrom_cons, fileBehind_of_kind hfile, hsame]
    exact ih fun other hother => h other (List.mem_cons_of_mem node hother)

theorem collectNode_bare_file (hopens : node.OpensFile name)
    (hbare : ∀ child ∈ node.namedChildren, ¬ child.IsMember) (base file : Option String)
    (atTop : Bool) (out : ParsedSource) : collectNode base file atTop out node = out := by
  have hname := SyntaxNode.fieldText?_eq_some.mpr hopens.2
  simp [collectNode, hopens.1.2, hname, collectFrom_of_not_isMember hbare]

theorem fileBehind_of_opens (hopens : node.OpensFile name) (base file : Option String) :
    fileBehind base file node = some (qualify base name) := by
  have hname := SyntaxNode.fieldText?_eq_some.mpr hopens.2
  simp [fileBehind, hopens.1.2, hname]

end Namespaces

/-- A namespace is collected alike however it is written: with a dotted name or nested, wherever it
stands, whole or divided, and at the end of a file with braces or without. -/
theorem collect_respelled :
    (∀ root root', Replaced Respells root.children root'.children → collect root = collect root') ∧
      ∀ root root' block file usings members name,
        root.namedChildren = usings ++ [block] → root'.namedChildren = usings ++ file :: members →
        (∀ node ∈ usings, node.kind = "using_directive") →
        block.OpensBlock name → block.Holds members →
        file.OpensFile name → (∀ node ∈ file.namedChildren, ¬ node.IsMember) →
        (∀ node ∈ members, node.kind ≠ "using_directive" ∧ ∀ other, ¬ node.OpensFile other) →
          collect root = collect root' := by
  constructor
  · intro root root' h
    exact (h.alike fun _ _ => Respells.alike).collected none none true .empty
  · intro root root' block file usings members name hroot hroot' husings hblock hholds hfile hbare hfree
    have hbefore : fileAfter none none usings = none := by
      apply fileAfter_of_free
      intro node hnode
      exact fileBehind_of_kind (by simp [husings node hnode])
    have henclosing : (none <|> some (qualify (none <|> none) name)) =
        (some (qualify none name) <|> none) := rfl
    rw [collect, collect, hroot, hroot', collectFrom_append, collectFrom_append, hbefore,
      collectFrom_singleton, collectNode_block hblock hholds, collectFrom_cons,
      fileBehind_of_opens hfile, collectNode_bare_file hfile hbare]
    exact collectFrom_eq_of_enclosing henclosing (fun node => hholds.isNamed) hfree false true _

section Written

namespace SyntaxNode

def block (name : String) (members : List SyntaxNode) : SyntaxNode :=
  .inner "namespace_declaration" [.leaf "qualified_name" "name" name,
    { kind := "declaration_list", isNamed := true, field := some "body", text := none
      children := members }]

def typeNamed (name : String) : SyntaxNode :=
  .inner "class_declaration" [.leaf "identifier" "name" name]

variable {text name : String} {members : List SyntaxNode}

theorem named_of_leaf {node : SyntaxNode} {kind : String} {rest : List SyntaxNode}
    (h : node.children = leaf kind "name" text :: rest)
    (hname : name.toList = text.toList.filter fun c => !Text.isBlank c) (hne : name ≠ "") :
    node.Named name :=
  ⟨[], leaf kind "name" text, rest, text, h, ⟨rfl, by simp⟩, rfl, hname, hne⟩

theorem loose_block : (block name members).Loose := by
  simp [Loose, InField, block, inner]

theorem opensBlock_block (hname : name.toList = text.toList.filter fun c => !Text.isBlank c)
    (hne : name ≠ "") : (block text members).OpensBlock name :=
  ⟨⟨rfl, rfl⟩, named_of_leaf rfl hname hne⟩

theorem holds_block (h : ∀ node ∈ members, node.isNamed = true) :
    (block name members).Holds members := by
  refine ⟨{ kind := "declaration_list", isNamed := true, field := some "body", text := none
            children := members }, ?_, ?_⟩
  · simp [body?, childInField?, block, inner, leaf]
  · rwa [namedChildren, List.filter_eq_self]

end SyntaxNode

theorem collect_respelled_in_file :
    collect (.inner "compilation_unit" [.inner "file_scoped_namespace_declaration"
        [.leaf "identifier" "name" "F", .block "A . C" [.typeNamed "X"]]]) =
      collect (.inner "compilation_unit" [.inner "file_scoped_namespace_declaration"
        [.leaf "identifier" "name" "F", .block "A" [.block "C" [.typeNamed "X"]]]]) ∧
    collect (.inner "compilation_unit" [
        { SyntaxNode.inner "using_directive" [] with text := some "using B;" },
        .block "N" [.typeNamed "X"]]) =
      collect (.inner "compilation_unit" [
        { SyntaxNode.inner "using_directive" [] with text := some "using B;" },
        .inner "file_scoped_namespace_declaration" [.leaf "identifier" "name" "N"],
        .typeNamed "X"]) := by
  have hnamed : ∀ node ∈ [SyntaxNode.typeNamed "X"], node.isNamed = true := by
    simp [SyntaxNode.typeNamed, SyntaxNode.inner]
  constructor
  · apply collect_respelled.1
    have hwhole : (SyntaxNode.block "A . C" [.typeNamed "X"]).OpensBlock ("A" ++ "." ++ "C") :=
      SyntaxNode.opensBlock_block (by decide +kernel) (by decide)
    have houter : (SyntaxNode.block "A" [.block "C" [.typeNamed "X"]]).OpensBlock "A" :=
      SyntaxNode.opensBlock_block (by decide +kernel) (by decide)
    have hinner : (SyntaxNode.block "C" [.typeNamed "X"]).OpensBlock "C" :=
      SyntaxNode.opensBlock_block (by decide +kernel) (by decide)
    have haround : (SyntaxNode.block "A" [.block "C" [.typeNamed "X"]]).Holds
        [.block "C" [.typeNamed "X"]] :=
      SyntaxNode.holds_block (by simp [SyntaxNode.block, SyntaxNode.inner])
    have hnested := Respells.nested ⟨SyntaxNode.loose_block, SyntaxNode.loose_block⟩ hwhole houter
      hinner (SyntaxNode.holds_block hnamed) haround (SyntaxNode.holds_block hnamed)
    exact .inside [] [] (.here [.leaf "identifier" "name" "F"] [] hnested) rfl rfl rfl (fun _ => rfl)
  · have hblock : (SyntaxNode.block "N" [.typeNamed "X"]).OpensBlock "N" :=
      SyntaxNode.opensBlock_block (by decide +kernel) (by decide)
    have hfile : (SyntaxNode.inner "file_scoped_namespace_declaration"
        [.leaf "identifier" "name" "N"]).OpensFile "N" :=
      ⟨⟨rfl, rfl⟩, SyntaxNode.named_of_leaf rfl (by decide +kernel) (by decide)⟩
    apply collect_respelled.2 _ _ _ _ [_] _ "N" rfl rfl (by simp [SyntaxNode.inner]) hblock
      (SyntaxNode.holds_block hnamed) hfile
    · simp [SyntaxNode.namedChildren, SyntaxNode.inner, SyntaxNode.leaf, SyntaxNode.IsMember,
        declaredKinds]
    · simp [SyntaxNode.typeNamed, SyntaxNode.inner, SyntaxNode.OpensFile, SyntaxNode.Is]

end Written

end CodeAtlas.CSharp
