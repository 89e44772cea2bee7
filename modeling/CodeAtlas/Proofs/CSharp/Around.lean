import CodeAtlas.Proofs.CSharp.Nodes

/-!
# Ways to declarations and imports

A way leads to a declaration that counts if all nodes around it are namespaces with a name. An import
counts if they are all file-scoped. The names of the namespaces are told from the outside in.
-/

namespace CodeAtlas.CSharp

/-- The latest file-scoped namespace with a name among some nodes of a level: its name, if there is
one. -/
inductive Latest : List SyntaxNode → List String → Prop where
  | absent {nodes : List SyntaxNode} (hnone : ∀ node ∈ nodes, ∀ name, ¬ node.OpensFile name) :
      Latest nodes []
  | last (before : List SyntaxNode) {node : SyntaxNode} {after : List SyntaxNode} {name : String}
      (hopens : node.OpensFile name) (hafter : ∀ other ∈ after, ∀ name, ¬ other.OpensFile name) :
      Latest (before ++ node :: after) [name]

/-- All nodes around a place are namespaces with a name, and these names are given to the place, the
outermost first. A file-scoped namespace replaces those before it on its level, and a block namespace
stands in the latest of them. -/
inductive Around : Way → List String → Prop where
  | unit : Around [] []
  | file {e : Entry} {way : Way} {name : String} {names : List String}
      (hopens : e.node.OpensFile name) (hway : Around way names) : Around (e :: way) (name :: names)
  | block {e body : Entry} {way : Way} {name : String} {latest names : List String}
      (hopens : e.node.OpensBlock name) (hlatest : Latest e.before latest)
      (hbody : e.node.HasBody body) (hway : Around way names) :
      Around (e :: body :: way) (latest ++ name :: names)

def dotted? : List String → Option String
  | [] => none
  | names => some (String.intercalate "." names)

def Way.Declares (way : Way) (d : TypeDeclaration) : Prop :=
  ∃ around e names latest, way = around ++ [e] ∧ Around around names ∧ Latest e.before latest ∧
    e.node.DeclaresKind d.kind ∧ e.node.Named d.name ∧ d.nspace = dotted? (names ++ latest)

def Way.Imports (way : Way) (target : String) : Prop :=
  ∃ around e text, way = around ++ [e] ∧ (∀ outer ∈ around, ∃ name, outer.node.OpensFile name) ∧
    e.node.Is "using_directive" ∧ e.node.text = some text ∧ usingTarget? text = some target

section Names

theorem dotted?_concat (names : List String) (name : String) :
    dotted? (names ++ [name]) = some (qualify (dotted? names) name) := by
  cases names with
  | nil => simp [dotted?, qualify]
  | cons first rest =>
    have hdots : String.intercalate "." (first :: rest ++ [name]) =
        String.intercalate "." (first :: rest) ++ "." ++ name := by
      rw [String.intercalate_append_of_ne_nil (by simp) (by simp), String.intercalate_singleton]
    simp only [dotted?, qualify]
    exact congrArg some hdots

theorem SyntaxNode.OpensFile.not_opensBlock {node : SyntaxNode} {name : String}
    (h : node.OpensFile name) (other : String) : ¬ node.OpensBlock other :=
  SyntaxNode.not_opensBlock (by simp [h.1.2]) other

theorem SyntaxNode.OpensBlock.not_opensFile {node : SyntaxNode} {name : String}
    (h : node.OpensBlock name) (other : String) : ¬ node.OpensFile other :=
  SyntaxNode.not_opensFile (by simp [h.1.2]) other

end Names

namespace Latest

variable {nodes before : List SyntaxNode} {node : SyntaxNode} {latest : List String}

theorem concat (h : Latest nodes latest) (hnode : ∀ name, ¬ node.OpensFile name) :
    Latest (nodes ++ [node]) latest := by
  cases h with
  | absent hnone =>
    apply Latest.absent
    intro other hother
    rcases List.mem_append.mp hother with hold | hnew
    · exact hnone other hold
    · rwa [List.mem_singleton.mp hnew]
  | @last before opened after name hopens hafter =>
    rw [List.append_assoc, List.cons_append]
    apply Latest.last before hopens
    intro other hother
    rcases List.mem_append.mp hother with hold | hnew
    · exact hafter other hold
    · rwa [List.mem_singleton.mp hnew]

theorem append (h : Latest nodes latest) {more : List SyntaxNode}
    (hmore : ∀ other ∈ more, ∀ name, ¬ other.OpensFile name) : Latest (nodes ++ more) latest := by
  induction more generalizing nodes with
  | nil => simpa using h
  | cons other more ih =>
    have hfirst := h.concat (hmore other List.mem_cons_self)
    have hall := ih hfirst fun later hlater => hmore later (List.mem_cons_of_mem other hlater)
    simpa using hall

theorem concat_file (nodes : List SyntaxNode) {name : String} (h : node.OpensFile name) :
    Latest (nodes ++ [node]) [name] :=
  .last nodes h (by simp)

theorem eq_of_last {after : List SyntaxNode} {name : String} (hopens : node.OpensFile name)
    (hafter : ∀ other ∈ after, ∀ name, ¬ other.OpensFile name)
    (h : Latest (before ++ node :: after) latest) : latest = [name] := by
  generalize hnodes : before ++ node :: after = nodes at h
  cases h with
  | absent hnone =>
    have hmem : node ∈ nodes := by simp [← hnodes]
    exact absurd hopens (hnone node hmem name)
  | @last front other behind otherName hother hbehind =>
    -- the two places are the same, for the later one would lie behind the other
    rcases List.append_eq_append_iff.mp hnodes with ⟨between, -, hrest⟩ | ⟨between, -, hrest⟩
    all_goals
      cases between with
      | nil =>
        obtain ⟨rfl, -⟩ := List.cons.inj hrest
        rw [hopens.2.unique hother.2]
      | cons first between =>
        obtain ⟨-, rfl⟩ := List.cons.inj hrest
        first
          | exact absurd hother (hafter other (by simp) otherName)
          | exact absurd hopens (hbehind node (by simp) name)

theorem unique {other : List String} (h : Latest nodes latest) (hother : Latest nodes other) :
    latest = other := by
  cases hother with
  | absent hnone =>
    cases h with
    | absent _ => rfl
    | last before hopens _ => exact absurd hopens (hnone _ (by simp) _)
  | last before hopens hafter => exact h.eq_of_last hopens hafter

end Latest

section Unique

theorem Around.unique {way : Way} {names others : List String} (h : Around way names)
    (hother : Around way others) : names = others := by
  induction h generalizing others with
  | unit =>
    cases hother
    rfl
  | file hopens _ ih =>
    cases hother with
    | file hopens' hway => rw [hopens.2.unique hopens'.2, ih hway]
    | block hblock => exact absurd hblock (hopens.not_opensBlock _)
  | block hopens hlatest _ _ ih =>
    cases hother with
    | file hfile => exact absurd hfile (hopens.not_opensFile _)
    | block hopens' hlatest' _ hway =>
      rw [hopens.2.unique hopens'.2, hlatest.unique hlatest', ih hway]

theorem Way.Declares.unique {way : Way} {d d' : TypeDeclaration} (h : way.Declares d)
    (h' : way.Declares d') : d = d' := by
  obtain ⟨around, e, names, latest, hway, haround, hlatest, hkind, hname, hnspace⟩ := h
  obtain ⟨around', e', names', latest', rfl, haround', hlatest', hkind', hname', hnspace'⟩ := h'
  obtain ⟨rfl, hlast⟩ := List.append_inj' hway rfl
  obtain rfl := List.singleton_inj.mp hlast
  obtain rfl := haround.unique haround'
  obtain rfl := hlatest.unique hlatest'
  have hsame := declarationKind?_eq_some.mpr hkind.2
  rw [declarationKind?_eq_some.mpr hkind'.2, Option.some.injEq] at hsame
  have hnspaces : d.nspace = d'.nspace := hnspace.trans hnspace'.symm
  have hnames : d.name = d'.name := hname.unique hname'
  cases d
  cases d'
  simp only [TypeDeclaration.mk.injEq]
  exact ⟨hsame.symm, hnspaces, hnames⟩

theorem Way.Imports.unique {way : Way} {target target' : String} (h : way.Imports target)
    (h' : way.Imports target') : target = target' := by
  obtain ⟨around, e, text, hway, -, -, htext, htarget⟩ := h
  obtain ⟨around', e', text', rfl, -, -, htext', htarget'⟩ := h'
  obtain ⟨-, hlast⟩ := List.append_inj' hway rfl
  obtain rfl := List.singleton_inj.mp hlast
  simp_all

end Unique

section Ways

variable {e : Entry} {way : Way} {outer : List String} {name target : String} {d : TypeDeclaration}

/-- What a way declares below a level that is given some names already. -/
def Way.DeclaresIn (outer : List String) (way : Way) (d : TypeDeclaration) : Prop :=
  ∃ around e names latest, way = around ++ [e] ∧ Around around names ∧ Latest e.before latest ∧
    e.node.DeclaresKind d.kind ∧ e.node.Named d.name ∧ d.nspace = dotted? (outer ++ names ++ latest)

theorem Way.declaresIn_nil : way.DeclaresIn [] d ↔ way.Declares d := Iff.rfl

theorem cons_eq_append_singleton {last : Entry} {around : Way} (hne : way ≠ []) :
    e :: way = around ++ [last] ↔ ∃ inner, around = e :: inner ∧ way = inner ++ [last] := by
  constructor
  · intro h
    cases around with
    | nil => exact absurd (List.cons.inj h).2 hne
    | cons first inner =>
      obtain ⟨rfl, rfl⟩ := List.cons.inj h
      exact ⟨inner, rfl, rfl⟩
  · intro h
    obtain ⟨inner, rfl, rfl⟩ := h
    rfl

theorem singleton_eq_append_singleton {last : Entry} {around : Way} :
    [e] = around ++ [last] ↔ around = [] ∧ last = e := by
  constructor
  · intro h
    cases around with
    | nil => exact ⟨rfl, (List.singleton_inj.mp h).symm⟩
    | cons first inner =>
      have hrest := (List.cons.inj h).2
      simp at hrest
  · intro h
    obtain ⟨rfl, rfl⟩ := h
    rfl

theorem Way.declaresIn_singleton : Way.DeclaresIn outer [e] d ↔ ∃ latest, Latest e.before latest ∧
    e.node.DeclaresKind d.kind ∧ e.node.Named d.name ∧ d.nspace = dotted? (outer ++ latest) := by
  constructor
  · intro h
    obtain ⟨around, last, names, latest, hway, haround, hlatest, hkind, hname, hnspace⟩ := h
    obtain ⟨rfl, rfl⟩ := singleton_eq_append_singleton.mp hway
    cases haround
    rw [List.append_nil] at hnspace
    exact ⟨latest, hlatest, hkind, hname, hnspace⟩
  · intro h
    obtain ⟨latest, hlatest, hkind, hname, hnspace⟩ := h
    exact ⟨[], e, [], latest, rfl, .unit, hlatest, hkind, hname, by rw [List.append_nil, hnspace]⟩

theorem Way.declaresIn_file (hopens : e.node.OpensFile name) (hne : way ≠ []) :
    Way.DeclaresIn outer (e :: way) d ↔ way.DeclaresIn (outer ++ [name]) d := by
  constructor
  · intro h
    obtain ⟨around, last, names, latest, hway, haround, hlatest, hkind, hname, hnspace⟩ := h
    obtain ⟨inner, rfl, rfl⟩ := (cons_eq_append_singleton hne).mp hway
    cases haround with
    | @file _ _ other names hother hinner =>
      rw [hother.2.unique hopens.2] at hnspace
      refine ⟨inner, last, names, latest, rfl, hinner, hlatest, hkind, hname, ?_⟩
      simpa using hnspace
    | block hblock => exact absurd hblock (hopens.not_opensBlock _)
  · intro h
    obtain ⟨inner, last, names, latest, rfl, haround, hlatest, hkind, hname, hnspace⟩ := h
    refine ⟨e :: inner, last, name :: names, latest, rfl, .file hopens haround, hlatest, hkind, hname,
      ?_⟩
    simpa using hnspace

theorem Way.declaresIn_block {body : Entry} {latest : List String} (hopens : e.node.OpensBlock name)
    (hbefore : Latest e.before latest) (hbody : e.node.HasBody body) (hne : way ≠ []) :
    Way.DeclaresIn outer (e :: body :: way) d ↔ way.DeclaresIn (outer ++ latest ++ [name]) d := by
  constructor
  · intro h
    obtain ⟨around, last, names, behind, hway, haround, hlatest, hkind, hname, hnspace⟩ := h
    obtain ⟨inside, rfl, hinside⟩ := (cons_eq_append_singleton (List.cons_ne_nil _ _)).mp hway
    obtain ⟨inner, rfl, rfl⟩ := (cons_eq_append_singleton hne).mp hinside
    cases haround with
    | file hfile => exact absurd hfile (hopens.not_opensFile _)
    | @block _ _ _ other front names hother hfront _ hinner =>
      rw [hother.2.unique hopens.2, hfront.unique hbefore] at hnspace
      refine ⟨inner, last, names, behind, rfl, hinner, hlatest, hkind, hname, ?_⟩
      simpa using hnspace
  · intro h
    obtain ⟨inner, last, names, behind, rfl, haround, hlatest, hkind, hname, hnspace⟩ := h
    refine ⟨e :: body :: inner, last, latest ++ name :: names, behind, rfl,
      .block hopens hbefore hbody haround, hlatest, hkind, hname, ?_⟩
    simpa using hnspace

theorem Way.not_declaresIn_of_closed (hfile : ∀ name, ¬ e.node.OpensFile name)
    (hblock : ∀ name body inner, e.node.OpensBlock name → way = body :: inner → inner ≠ [] →
      ¬ e.node.HasBody body) (hne : way ≠ []) : ¬ Way.DeclaresIn outer (e :: way) d := by
  intro h
  obtain ⟨around, last, names, latest, hway, haround, -⟩ := h
  obtain ⟨inner, rfl, rfl⟩ := (cons_eq_append_singleton hne).mp hway
  cases haround with
  | file hopens => exact hfile _ hopens
  | block hopens _ hbody => exact hblock _ _ _ hopens rfl (by simp) hbody

theorem Way.imports_singleton : Way.Imports [e] target ↔
    e.node.Is "using_directive" ∧ e.node.text.bind usingTarget? = some target := by
  rw [Option.bind_eq_some_iff]
  constructor
  · intro h
    obtain ⟨around, last, text, hway, -, huse, htext, htarget⟩ := h
    obtain ⟨-, rfl⟩ := singleton_eq_append_singleton.mp hway
    exact ⟨huse, text, htext, htarget⟩
  · intro h
    obtain ⟨huse, text, htext, htarget⟩ := h
    exact ⟨[], e, text, rfl, by simp, huse, htext, htarget⟩

theorem Way.imports_cons (hne : way ≠ []) : Way.Imports (e :: way) target ↔
    (∃ name, e.node.OpensFile name) ∧ way.Imports target := by
  constructor
  · intro h
    obtain ⟨around, last, text, hway, hopen, huse, htext, htarget⟩ := h
    obtain ⟨inner, rfl, rfl⟩ := (cons_eq_append_singleton hne).mp hway
    have hinner : ∀ between ∈ inner, ∃ name, between.node.OpensFile name :=
      fun between hbetween => hopen between (List.mem_cons_of_mem e hbetween)
    exact ⟨hopen e List.mem_cons_self, inner, last, text, rfl, hinner, huse, htext, htarget⟩
  · intro h
    obtain ⟨hfirst, inner, last, text, rfl, hinner, huse, htext, htarget⟩ := h
    refine ⟨e :: inner, last, text, rfl, ?_, huse, htext, htarget⟩
    intro between hbetween
    rcases List.mem_cons.mp hbetween with rfl | hbetween
    · exact hfirst
    · exact hinner between hbetween

end Ways

end CodeAtlas.CSharp
