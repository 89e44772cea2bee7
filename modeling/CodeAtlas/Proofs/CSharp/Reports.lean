import CodeAtlas.Proofs.CSharp.Around
import CodeAtlas.Proofs.Keyed.Merge

/-!
# What a syntax tree reports

Collecting reports the declarations and the imports that the ways through the tree lead to, in source
order.
-/

namespace CodeAtlas.CSharp

open Keyed

/-- Just what the ways through a tree report, in source order and once for each way that reports
anything. -/
def ReportedBy {α : Type} (R : Way → α → Prop) (root : SyntaxNode) (found : List α) : Prop :=
  ∃ ways : List Way, ways.Pairwise (fun v w => v.position < w.position) ∧
    (∀ way, way ∈ ways ↔ IsWay root.children way ∧ ∃ a, R way a) ∧ List.Forall₂ R ways found

section Unique

variable {α : Type} {R : Way → α → Prop}

theorem forall₂_unique (hR : ∀ way a b, R way a → R way b → a = b) {ways : List Way}
    {found others : List α} (h : List.Forall₂ R ways found) (hother : List.Forall₂ R ways others) :
    found = others := by
  induction h generalizing others with
  | nil =>
    cases hother
    rfl
  | cons hway _ ih =>
    cases hother with
    | cons hway' hrest => rw [hR _ _ _ hway hway', ih hrest]

theorem ReportedBy.unique (hR : ∀ way a b, R way a → R way b → a = b) {root : SyntaxNode}
    {found others : List α} (h : ReportedBy R root found) (hother : ReportedBy R root others) :
    found = others := by
  obtain ⟨ways, hsorted, hways, hfound⟩ := h
  obtain ⟨ways', hsorted', hways', hothers⟩ := hother
  have hnodup (ways : List Way) (h : ways.Pairwise fun v w => v.position < w.position) :
      ways.Nodup := by
    apply h.imp
    intro v w hlt hsame
    exact List.lt_irrefl _ (hsame ▸ hlt)
  have hperm : ways.Perm ways' := by
    rw [List.perm_ext_iff_of_nodup (hnodup ways hsorted) (hnodup ways' hsorted')]
    intro way
    rw [hways, hways']
  have hsame : ways = ways' := by
    apply hperm.eq_of_pairwise ?_ hsorted hsorted'
    intro v w _ _ hlt hgt
    exact absurd (List.lt_trans hlt hgt) (List.lt_irrefl _)
  subst hsame
  exact forall₂_unique hR hfound hothers

end Unique

section Finds

/-- Each way that reports anything reports the next of what is found. -/
inductive Finds {α : Type} (R : Way → α → Prop) : List Way → List α → Prop where
  | nil : Finds R [] []
  | found {way : Way} {ways : List Way} {a : α} {found : List α} (hway : R way a)
      (h : Finds R ways found) : Finds R (way :: ways) (a :: found)
  | silent {way : Way} {ways : List Way} {found : List α} (hway : ∀ a, ¬ R way a)
      (h : Finds R ways found) : Finds R (way :: ways) found

namespace Finds

variable {α : Type} {R S : Way → α → Prop} {ways more : List Way} {xs ys : List α}

theorem append (h : Finds R ways xs) (hmore : Finds R more ys) :
    Finds R (ways ++ more) (xs ++ ys) := by
  induction h with
  | nil => exact hmore
  | found hway _ ih => exact .found hway ih
  | silent hway _ ih => exact .silent hway ih

theorem nothing (h : ∀ way ∈ ways, ∀ a, ¬ R way a) : Finds R ways [] := by
  induction ways with
  | nil => exact .nil
  | cons way ways ih =>
    exact .silent (h way List.mem_cons_self) (ih fun other hother =>
      h other (List.mem_cons_of_mem way hother))

theorem map {f : Way → Way} (h : Finds S ways xs) (hf : ∀ way ∈ ways, ∀ a, R (f way) a ↔ S way a) :
    Finds R (ways.map f) xs := by
  induction h with
  | nil => exact .nil
  | @found way ways a _ hway _ ih =>
    have hrest := ih fun other hother => hf other (List.mem_cons_of_mem way hother)
    exact .found ((hf way List.mem_cons_self a).mpr hway) hrest
  | @silent way ways _ hway _ ih =>
    have hrest := ih fun other hother => hf other (List.mem_cons_of_mem way hother)
    exact .silent (fun a ha => hway a ((hf way List.mem_cons_self a).mp ha)) hrest

theorem exists_reporting (h : Finds R ways xs) : ∃ reporting, reporting.Sublist ways ∧
    (∀ way, way ∈ reporting ↔ way ∈ ways ∧ ∃ a, R way a) ∧ List.Forall₂ R reporting xs := by
  induction h with
  | nil => exact ⟨[], .slnil, by simp, .nil⟩
  | @found way ways a xs hway _ ih =>
    obtain ⟨reporting, hsub, hall, hreports⟩ := ih
    refine ⟨way :: reporting, hsub.cons_cons way, ?_, .cons hway hreports⟩
    intro other
    rw [List.mem_cons, List.mem_cons, hall, or_and_right]
    apply or_congr_left
    constructor
    · intro hother
      exact ⟨hother, a, hother ▸ hway⟩
    · exact And.left
  | @silent way ways xs hway _ ih =>
    obtain ⟨reporting, hsub, hall, hreports⟩ := ih
    refine ⟨reporting, hsub.cons way, ?_, hreports⟩
    intro other
    rw [List.mem_cons, hall, or_and_right]
    constructor
    · exact Or.inr
    · intro hother
      rcases hother with ⟨rfl, a, ha⟩ | hother
      · exact absurd ha (hway a)
      · exact hother

theorem reportedBy {root : SyntaxNode} (h : Finds R (waysFrom [] root.children) xs) :
    ReportedBy R root xs := by
  obtain ⟨reporting, hsub, hall, hreports⟩ := h.exists_reporting
  refine ⟨reporting, (pairwise_waysFrom [] root.children).sublist hsub, ?_, hreports⟩
  intro way
  rw [hall, mem_waysFrom_iff]

end Finds

end Finds

/-- What was found besides is what some ways report, below a level that is given some names already. -/
def Gathers (outer : List String) (atTop : Bool) (out found : ParsedSource) (ways : List Way) : Prop :=
  ∃ declarations targets, Finds (Way.DeclaresIn outer) ways declarations ∧
    Finds (fun way target => atTop = true ∧ way.Imports target) ways targets ∧
    found.declarations = out.declarations ++ declarations ∧
    found.imports = keepAll id out.imports targets

namespace Gathers

variable {outer outer' : List String} {atTop atTop' : Bool} {out mid found : ParsedSource}
  {ways more : List Way}

theorem nothing (out : ParsedSource) (hdeclares : ∀ way ∈ ways, ∀ d, ¬ way.DeclaresIn outer d)
    (himports : ∀ way ∈ ways, ∀ target, ¬ (atTop = true ∧ way.Imports target)) :
    Gathers outer atTop out out ways :=
  ⟨[], [], .nothing hdeclares, .nothing himports, by simp, rfl⟩

theorem append (h : Gathers outer atTop out mid ways) (hmore : Gathers outer atTop mid found more) :
    Gathers outer atTop out found (ways ++ more) := by
  obtain ⟨ds, targets, hds, htargets, hdeclarations, himports⟩ := h
  obtain ⟨ds', targets', hds', htargets', hdeclarations', himports'⟩ := hmore
  refine ⟨ds ++ ds', targets ++ targets', hds.append hds', htargets.append htargets', ?_, ?_⟩
  · rw [hdeclarations', hdeclarations, List.append_assoc]
  · rw [himports', himports, keepAll, keepAll, keepAll, List.foldl_append]

theorem map {f : Way → Way} (h : Gathers outer' atTop' out found ways)
    (hdeclares : ∀ way ∈ ways, ∀ d, (f way).DeclaresIn outer d ↔ way.DeclaresIn outer' d)
    (himports : ∀ way ∈ ways, ∀ target,
      atTop = true ∧ (f way).Imports target ↔ atTop' = true ∧ way.Imports target) :
    Gathers outer atTop out found (ways.map f) := by
  obtain ⟨ds, targets, hds, htargets, hdeclarations, himported⟩ := h
  exact ⟨ds, targets, hds.map hdeclares, htargets.map himports, hdeclarations, himported⟩

end Gathers

section Nodes

variable {outer : List String} {atTop : Bool} {before : List SyntaxNode} {node : SyntaxNode}

def waysInside (before : List SyntaxNode) (node : SyntaxNode) : List Way :=
  (waysFrom [] node.children).map (⟨before, node⟩ :: ·)

theorem gathers_silent (hfile : ∀ name, ¬ node.OpensFile name) {ways : List Way}
    (hways : ∀ way ∈ ways, ∃ e inner, way = e :: inner ∧
      ∀ name, node.OpensBlock name → inner = [] ∨ ¬ node.HasBody e) (out : ParsedSource) :
    Gathers outer atTop out out (ways.map (⟨before, node⟩ :: ·)) := by
  apply Gathers.nothing
  · intro way hway d
    obtain ⟨inside, hinside, rfl⟩ := List.mem_map.mp hway
    obtain ⟨e, inner, rfl, hdead⟩ := hways inside hinside
    apply Way.not_declaresIn_of_closed hfile ?_ (List.cons_ne_nil e inner)
    intro name body rest hopens hrest hne
    obtain ⟨rfl, rfl⟩ := List.cons.inj hrest
    exact (hdead name hopens).resolve_left hne
  · intro way hway target himports
    obtain ⟨inside, hinside, rfl⟩ := List.mem_map.mp hway
    obtain ⟨e, inner, rfl, -⟩ := hways inside hinside
    obtain ⟨⟨name, hopens⟩, -⟩ := (Way.imports_cons (List.cons_ne_nil e inner)).mp himports.2
    exact hfile name hopens

theorem gathers_closed (hfile : ∀ name, ¬ node.OpensFile name)
    (hblock : ∀ name, node.OpensBlock name → node.body? = none) (out : ParsedSource) :
    Gathers outer atTop out out (waysInside before node) := by
  apply gathers_silent hfile
  intro way hway
  obtain ⟨e, inner, between, rfl, -, hnode⟩ := exists_head_of_mem_waysFrom hway
  refine ⟨e, inner, rfl, ?_⟩
  intro name hopens
  exact Or.inr (SyntaxNode.not_hasBody_of_body? (hblock name hopens) hnode)

theorem gathers_file {name : String} (hopens : node.OpensFile name) {out found : ParsedSource}
    (h : Gathers (outer ++ [name]) atTop out found (waysFrom [] node.children)) :
    Gathers outer atTop out found (waysInside before node) := by
  apply h.map
  · intro way hway d
    exact Way.declaresIn_file hopens (ne_nil_of_mem_waysFrom hway)
  · intro way hway target
    rw [Way.imports_cons (ne_nil_of_mem_waysFrom hway)]
    simp only [show (∃ name, node.OpensFile name) from ⟨name, hopens⟩, true_and]

theorem gathers_block {name : String} {latest : List String} {body : SyntaxNode}
    (hopens : node.OpensBlock name) (hlatest : Latest before latest) (hbody : node.body? = some body)
    {out found : ParsedSource}
    (h : Gathers (outer ++ latest ++ [name]) false out found (waysFrom [] body.children)) :
    Gathers outer atTop out found (waysInside before node) := by
  obtain ⟨front, behind, hchildren, hplace, hother⟩ := SyntaxNode.exists_of_body? hbody
  have hfront : Gathers outer atTop out out ((waysFrom [] front).map (⟨before, node⟩ :: ·)) := by
    apply gathers_silent hopens.not_opensFile
    intro way hway
    obtain ⟨e, inner, between, rfl, -, hnode⟩ := exists_head_of_mem_waysFrom hway
    have hdead := hother e (by simp [hchildren, hnode]) (Or.inl hnode)
    exact ⟨e, inner, rfl, fun _ _ => Or.inr hdead⟩
  have hself : Gathers outer atTop out out ([[⟨front, body⟩]].map (⟨before, node⟩ :: ·)) := by
    apply gathers_silent hopens.not_opensFile
    intro way hway
    exact ⟨⟨front, body⟩, [], List.mem_singleton.mp hway, fun _ _ => Or.inl rfl⟩
  have hinside : Gathers outer atTop out found
      (((waysFrom [] body.children).map (⟨front, body⟩ :: ·)).map (⟨before, node⟩ :: ·)) := by
    rw [List.map_map]
    apply h.map
    · intro way hway d
      exact Way.declaresIn_block hopens hlatest hplace (ne_nil_of_mem_waysFrom hway)
    · intro way hway target
      have hclosed : ¬ Way.Imports (⟨before, node⟩ :: ⟨front, body⟩ :: way) target := by
        rw [Way.imports_cons (List.cons_ne_nil _ way)]
        intro himports
        obtain ⟨⟨other, hfile⟩, -⟩ := himports
        exact hopens.not_opensFile other hfile
      simp [hclosed]
  have hbehind : Gathers outer atTop found found
      ((waysFrom (front ++ [body]) behind).map (⟨before, node⟩ :: ·)) := by
    apply gathers_silent hopens.not_opensFile
    intro way hway
    obtain ⟨e, inner, between, rfl, hbefore, hnode⟩ := exists_head_of_mem_waysFrom hway
    have hdead := hother e (by simp [hchildren, hnode]) (Or.inr (by simp [hbefore]))
    exact ⟨e, inner, rfl, fun _ _ => Or.inr hdead⟩
  have hall := hfront.append (hself.append (hinside.append hbehind))
  rw [waysInside, hchildren, waysFrom_append, waysFrom]
  simpa using hall

theorem gathers_single (hkind : ∀ kind, ¬ node.DeclaresKind kind)
    (huse : ¬ (node.Is "using_directive" ∧ atTop = true)) (out : ParsedSource) :
    Gathers outer atTop out out [[⟨before, node⟩]] := by
  apply Gathers.nothing
  · intro way hway d hdeclares
    rw [List.mem_singleton.mp hway, Way.declaresIn_singleton] at hdeclares
    obtain ⟨latest, -, hdeclared, -⟩ := hdeclares
    exact hkind d.kind hdeclared
  · intro way hway target himports
    rw [List.mem_singleton.mp hway, Way.imports_singleton] at himports
    exact huse ⟨himports.2.1, himports.1⟩

theorem gathers_node (hkind : declarationKind? node.kind = none)
    (huse : ¬ (node.kind = "using_directive" ∧ atTop = true)) (out : ParsedSource) :
    Gathers outer atTop out out [[⟨before, node⟩]] :=
  gathers_single (SyntaxNode.not_declaresKind hkind) (fun h => huse ⟨h.1.2, h.2⟩) out

theorem gathers_addDeclared {latest : List String} {nspace : Option String}
    (hnamed : node.isNamed = true) (huse : ¬ (node.kind = "using_directive" ∧ atTop = true))
    (hlatest : Latest before latest) (hnspace : nspace = dotted? (outer ++ latest))
    (out : ParsedSource) :
    Gathers outer atTop out (addDeclared nspace out node) [[⟨before, node⟩]] := by
  have hsilent : ∀ target, ¬ (atTop = true ∧ Way.Imports [⟨before, node⟩] target) := by
    intro target himports
    rw [Way.imports_singleton] at himports
    exact huse ⟨himports.2.1.2, himports.1⟩
  have hnothing (h : ∀ d, ¬ Way.DeclaresIn outer [⟨before, node⟩] d) :
      Gathers outer atTop out out [[⟨before, node⟩]] :=
    ⟨[], [], .silent h .nil, .silent hsilent .nil, by simp, rfl⟩
  rw [addDeclared]
  split
  · next kind name hkind hname =>
    have hdeclares : Way.DeclaresIn outer [⟨before, node⟩] { kind, nspace, name } := by
      rw [Way.declaresIn_singleton]
      exact ⟨latest, hlatest, ⟨hnamed, declarationKind?_eq_some.mp hkind⟩,
        SyntaxNode.fieldText?_eq_some.mp hname, hnspace⟩
    exact ⟨_, [], .found hdeclares .nil, .silent hsilent .nil, rfl, rfl⟩
  · next hnone =>
    apply hnothing
    intro d hdeclares
    obtain ⟨other, -, hkind, hname, -⟩ := Way.declaresIn_singleton.mp hdeclares
    exact hnone d.kind d.name (declarationKind?_eq_some.mpr hkind.2)
      (SyntaxNode.fieldText?_eq_some.mpr hname)

theorem ne_empty_of_usingTarget? {text target : String} (h : usingTarget? text = some target) :
    target ≠ "" := by
  rw [usingTarget?] at h
  split at h
  · cases h
  · next hne =>
    rintro rfl
    exact hne (by simpa using h)

theorem gathers_addUsing (hnamed : node.isNamed = true) (huse : node.kind = "using_directive")
    (out : ParsedSource) : Gathers outer true out (addUsing out node.text) [[⟨before, node⟩]] := by
  have hsilent : ∀ d, ¬ Way.DeclaresIn outer [⟨before, node⟩] d := by
    intro d hdeclares
    obtain ⟨latest, -, hdeclared, -⟩ := Way.declaresIn_singleton.mp hdeclares
    exact SyntaxNode.not_declaresKind (by rw [huse]; rfl) d.kind hdeclared
  rw [addUsing]
  cases htarget : node.text.bind usingTarget? with
  | none =>
    refine ⟨[], [], .silent hsilent .nil, .silent ?_ .nil, by simp, rfl⟩
    intro target himports
    rw [Way.imports_singleton, htarget] at himports
    cases himports.2.2
  | some target =>
    have himports : Way.Imports [⟨before, node⟩] target :=
      Way.imports_singleton.mpr ⟨⟨hnamed, huse⟩, htarget⟩
    have hne : target ≠ "" := by
      obtain ⟨text, -, htext⟩ := Option.bind_eq_some_iff.mp htarget
      exact ne_empty_of_usingTarget? htext
    refine ⟨[], [target], .silent hsilent .nil, .found ⟨rfl, himports⟩ .nil, ?_, ?_⟩
    · simp only [ParsedSource.addImport]
      split <;> simp
    · by_cases hold : target ∈ out.imports <;>
        simp [ParsedSource.addImport, keepAll, keep, hne, hold]

end Nodes

section Levels

/-- What holds for the nodes of a level behind those before them: the namespace around the level, and
the file-scoped namespace met on it. -/
structure Level (outer : List String) (before : List SyntaxNode) (latest : List String)
    (base file : Option String) : Prop where
  base_eq : base = dotted? outer
  behind : Latest before latest
  file_eq : file = latest.getLast?.map (qualify base)

namespace Level

variable {outer latest : List String} {before : List SyntaxNode} {base file : Option String}

theorem inside (outer : List String) : Level outer [] [] (dotted? outer) none :=
  ⟨rfl, .absent (by simp), rfl⟩

theorem next (h : Level outer before latest base file) {nodes : List SyntaxNode}
    (hnodes : ∀ node ∈ nodes, ∀ name, ¬ node.OpensFile name) :
    Level outer (before ++ nodes) latest base file :=
  ⟨h.base_eq, h.behind.append hnodes, h.file_eq⟩

theorem nextNode (h : Level outer before latest base file) {node : SyntaxNode}
    (hnode : ∀ name, ¬ node.OpensFile name) : Level outer (before ++ [node]) latest base file :=
  h.next (by simpa using hnode)

theorem nextFile (h : Level outer before latest base file) {node : SyntaxNode} {name : String}
    (hopens : node.OpensFile name) :
    Level outer (before ++ [node]) [name] base (some (qualify base name)) :=
  ⟨h.base_eq, .concat_file before hopens, rfl⟩

theorem enclosing (h : Level outer before latest base file) :
    (file <|> base) = dotted? (outer ++ latest) := by
  rw [h.file_eq, h.base_eq]
  cases h.behind with
  | absent _ => simp
  | last front hopens hafter => simp [dotted?_concat]

end Level

end Levels

section Collecting

theorem gathers_unnamed {outer : List String} {atTop : Bool} (before : List SyntaxNode)
    {nodes : List SyntaxNode} (h : ∀ node ∈ nodes, ¬ node.isNamed = true) (out : ParsedSource) :
    Gathers outer atTop out out (waysFrom before nodes) := by
  induction nodes generalizing before with
  | nil => exact .nothing out (by simp [waysFrom]) (by simp [waysFrom])
  | cons node rest ih =>
    have hnode : ¬ node.isNamed = true := h node List.mem_cons_self
    have hself : Gathers outer atTop out out [[⟨before, node⟩]] :=
      gathers_single (fun _ hkind => hnode hkind.1) (fun huse => hnode huse.1.1) out
    have hinside : Gathers outer atTop out out (waysInside before node) :=
      gathers_closed (fun _ hopens => hnode hopens.1.1) (fun _ hopens => absurd hopens.1.1 hnode) out
    have hrest := ih (before ++ [node]) fun other hother => h other (List.mem_cons_of_mem node hother)
    rw [waysFrom]
    exact hself.append (hinside.append hrest)

def Collects (base file : Option String) (atTop : Bool) (out found : ParsedSource)
    (nodes : List SyntaxNode) : Prop :=
  ∀ outer before children latest, Level outer before latest base file →
    children.filter (·.isNamed) = nodes → Gathers outer atTop out found (waysFrom before children)

theorem Collects.nil (base file : Option String) (atTop : Bool) (out : ParsedSource) :
    Collects base file atTop out out [] := by
  intro outer before children latest _ hnodes
  exact gathers_unnamed before (List.filter_eq_nil_iff.mp hnodes) out

theorem Collects.cons {base file next : Option String} {atTop : Bool} {out inner found : ParsedSource}
    {node : SyntaxNode} {rest : List SyntaxNode}
    (hnode : ∀ outer before latest, node.isNamed = true → Level outer before latest base file →
      Gathers outer atTop out inner ([[⟨before, node⟩]] ++ waysInside before node) ∧
        ∃ latest, Level outer (before ++ [node]) latest base next)
    (hrest : Collects base next atTop inner found rest) :
    Collects base file atTop out found (node :: rest) := by
  intro outer before children latest h hnodes
  obtain ⟨skipped, after, rfl, hskipped, hnamed, hafter⟩ := List.filter_eq_cons_iff.mp hnodes
  have hlevel := h.next fun other hother _ hopens => hskipped other hother hopens.1.1
  obtain ⟨hgathers, latest, hnext⟩ := hnode outer (before ++ skipped) _ hnamed hlevel
  have hall := (gathers_unnamed before hskipped out).append
    (hgathers.append (hrest outer _ after latest hnext hafter))
  rw [waysFrom_append, waysFrom]
  simpa [waysInside] using hall

theorem collects_collectFrom (base file : Option String) (atTop : Bool) (out : ParsedSource)
    (nodes : List SyntaxNode) :
    Collects base file atTop out (collectFrom base file atTop out nodes) nodes := by
  fun_induction collectFrom base file atTop out nodes with
  | case1 base file atTop out => exact .nil base file atTop out
  | case2 base file atTop out node rest huse ih =>
    obtain ⟨hkind, rfl⟩ := huse
    refine .cons ?_ ih
    intro outer before latest hnamed h
    have hfile := node.not_opensFile (by simp [hkind])
    have hblock := node.not_opensBlock (by simp [hkind])
    refine ⟨(gathers_addUsing hnamed hkind out).append ?_, latest, h.nextNode hfile⟩
    exact gathers_closed hfile (fun name hopens => absurd hopens (hblock name)) _
  | case3 base file atTop out node rest huse hkind hname ih =>
    refine .cons ?_ ih
    intro outer before latest hnamed h
    have hfile := node.not_opensFile (by simp [hkind])
    have hanon := SyntaxNode.not_named_of_fieldText? hname
    refine ⟨(gathers_node (by rw [hkind]; rfl) huse out).append ?_, latest, h.nextNode hfile⟩
    exact gathers_closed hfile (fun name hopens => absurd hopens.2 (hanon name)) out
  | case4 base file atTop out node rest huse hkind name hname hbody ih =>
    refine .cons ?_ ih
    intro outer before latest hnamed h
    have hfile := node.not_opensFile (by simp [hkind])
    refine ⟨(gathers_node (by rw [hkind]; rfl) huse out).append ?_, latest, h.nextNode hfile⟩
    exact gathers_closed hfile (fun _ _ => hbody) out
  | case5 base file atTop out node rest huse hkind name hname body hbody inner ihInner ih =>
    refine .cons ?_ ih
    intro outer before latest hnamed h
    have hfile := node.not_opensFile (by simp [hkind])
    have hopens : node.OpensBlock name := ⟨⟨hnamed, hkind⟩, SyntaxNode.fieldText?_eq_some.mp hname⟩
    have hlevel := Level.inside (outer ++ latest ++ [name])
    rw [dotted?_concat, ← h.enclosing] at hlevel
    refine ⟨(gathers_node (by rw [hkind]; rfl) huse out).append ?_, latest, h.nextNode hfile⟩
    exact gathers_block hopens h.behind hbody (ihInner _ [] body.children [] hlevel rfl)
  | case6 base file atTop out node rest huse hblock hkind hname ih =>
    refine .cons ?_ ih
    intro outer before latest hnamed h
    have hanon := SyntaxNode.not_named_of_fieldText? hname
    have hfile (name : String) : ¬ node.OpensFile name := fun hopens => hanon name hopens.2
    refine ⟨(gathers_node (by rw [hkind]; rfl) huse out).append ?_, latest, h.nextNode hfile⟩
    exact gathers_closed hfile (fun name hopens => absurd hopens.2 (hanon name)) out
  | case7 base file atTop out node rest huse hblock hkind name hname inner ihInner ih =>
    refine .cons ?_ ih
    intro outer before latest hnamed h
    have hopens : node.OpensFile name := ⟨⟨hnamed, hkind⟩, SyntaxNode.fieldText?_eq_some.mp hname⟩
    have hlevel := Level.inside (outer ++ [name])
    rw [dotted?_concat, ← h.base_eq] at hlevel
    refine ⟨(gathers_node (by rw [hkind]; rfl) huse out).append ?_, [name], h.nextFile hopens⟩
    exact gathers_file hopens (ihInner _ [] node.children [] hlevel rfl)
  | case8 base file atTop out node rest huse hblock hkind ih =>
    refine .cons ?_ ih
    intro outer before latest hnamed h
    have hfile := node.not_opensFile hkind
    refine ⟨(gathers_addDeclared hnamed huse h.behind h.enclosing out).append ?_, latest,
      h.nextNode hfile⟩
    exact gathers_closed hfile (fun name hopens => absurd hopens (node.not_opensBlock hblock name)) _

end Collecting

theorem collect_reported (root : SyntaxNode) :
    ReportedBy Way.Declares root (collect root).declarations ∧
      ∃ targets, ReportedBy Way.Imports root targets ∧
        (collect root).imports = targets.eraseDups := by
  obtain ⟨ds, targets, hds, htargets, hdeclarations, himports⟩ :=
    collects_collectFrom none none true .empty root.namedChildren [] [] root.children []
      (.inside []) rfl
  constructor
  · have hcollected : (collect root).declarations = ds := hdeclarations
    rw [hcollected]
    exact hds.reportedBy
  · refine ⟨targets, ?_, ?_⟩
    · simp only [true_and] at htargets
      exact htargets.reportedBy
    · have hcollected : (collect root).imports = keepAll id [] targets := himports
      have hkeys := keys_keepAll id targets
      rw [List.map_id, List.map_id] at hkeys
      rw [hcollected, hkeys]

/-- The declarations of a tree are just those that ways through it lead to, in source order. The imports
are the targets that ways lead to, without their repetitions. -/
theorem collect_reports (root : SyntaxNode) :
    (∀ declarations, ReportedBy Way.Declares root declarations ↔
        declarations = (collect root).declarations) ∧
      ∃ targets, (∀ found, ReportedBy Way.Imports root found ↔ found = targets) ∧
        (collect root).imports = targets.eraseDups := by
  obtain ⟨hdeclarations, targets, htargets, himports⟩ := collect_reported root
  refine ⟨?_, targets, ?_, himports⟩
  · intro declarations
    constructor
    · intro h
      exact h.unique @Way.Declares.unique hdeclarations
    · intro h
      rwa [h]
  · intro found
    constructor
    · intro h
      exact h.unique @Way.Imports.unique htargets
    · intro h
      rwa [h]

namespace SyntaxNode

def leaf (kind field text : String) : SyntaxNode :=
  { kind, isNamed := true, field := some field, text := some text, children := [] }

def inner (kind : String) (children : List SyntaxNode) : SyntaxNode :=
  { kind, isNamed := true, field := none, text := none, children }

end SyntaxNode

/-- A file in which a namespace replaces the one before it, and holds another one with a body. -/
def shopFile : SyntaxNode :=
  let name := SyntaxNode.leaf "qualified_name" "name"
  let body : List SyntaxNode := [
    { kind := "using_directive", isNamed := true, field := none, text := some "using Inner.Dep;"
      children := [] },
    .inner "class_declaration" [name "Host", .inner "declaration_list" [
      .inner "class_declaration" [name "Nested"]]],
    .inner "delegate_declaration" [name "Handler"]]
  .inner "compilation_unit" [
    { kind := "using_directive", isNamed := true, field := none, text := some "using System;"
      children := [] },
    .inner "file_scoped_namespace_declaration" [name "Old"],
    .inner "file_scoped_namespace_declaration" [name "Shop . Core"],
    { kind := "using_directive", isNamed := true, field := none
      text := some "global using static A.B;", children := [] },
    .inner "namespace_declaration" [name " Orders", .inner "declaration_list" body],
    .inner "record_struct_declaration" [name "Money"]]

theorem collect_reports_shopFile :
    ReportedBy Way.Declares shopFile
        [⟨.cls, some "Shop.Core.Orders", "Host"⟩, ⟨.other, some "Shop.Core", "Money"⟩] ∧
      ∃ targets, ReportedBy Way.Imports shopFile targets ∧ targets.eraseDups = ["System", "A.B"] := by
  obtain ⟨hdeclarations, targets, htargets, himports⟩ := collect_reports shopFile
  constructor
  · rw [hdeclarations]
    decide +kernel
  · refine ⟨targets, (htargets targets).mpr rfl, ?_⟩
    rw [← himports]
    decide +kernel

end CodeAtlas.CSharp
