import CodeAtlas.Proofs.Store.Relations
import CodeAtlas.Query.Engine

/-!
# What the local explanation states

Without a language model a module is explained by facts of the stored graph: how many edges leave and
enter it, the names that its neighbours have now, the neighbours in both directions, and the packages of
high risk among the first in the store. The text is one template, filled with these facts, and some of
its remarks are made only where a fact calls for them.
-/

namespace CodeAtlas

open Keyed

structure LocalFacts where
  kind : ModuleKind
  name : String
  nspace : String
  fanOut : Nat
  fanIn : Nat
  dependencies : List String
  dependents : List String
  inCycle : Bool
  cycles : List String
  atRisk : Bool
  highRisk : List String

namespace LocalFacts

def kept (remarks : List (Bool × String)) : List String := (remarks.filter (·.1)).map (·.2)

def namesOrNone (names : List String) : String :=
  if names = [] then "none" else String.intercalate ", " names

def text (f : LocalFacts) : String :=
  "LLM disabled: set LLM_API_KEY to enable real explanations.\n\n" ++
  "- Purpose: " ++ f.kind.label ++ " " ++ f.name ++ " in namespace " ++ f.nspace ++ ".\n" ++
  "- Dependencies: " ++ namesOrNone f.dependencies ++ "\n" ++
  "- Dependents: " ++ namesOrNone f.dependents ++ "\n" ++
  "- Risks: " ++ String.intercalate "; " (kept
    [(true, "fan-out " ++ toString f.fanOut ++ ", fan-in " ++ toString f.fanIn),
      (10 < f.fanOut, "high fan-out, many reasons to change"),
      (10 < f.fanIn, "high fan-in, changes ripple widely"),
      (f.inCycle, "direct cycle with " ++ String.intercalate ", " f.cycles),
      (f.atRisk, "high-risk packages in the store: " ++ String.intercalate ", " f.highRisk)]) ++
  ".\n" ++
  "- Suggestions: " ++ String.intercalate "; " (kept
    [(f.inCycle, "break the cycle behind an interface"),
      (10 < f.fanOut, "split responsibilities into smaller types"),
      (10 < f.fanIn, "extract an interface to stabilize dependents"),
      (true, "add tests around the public surface")]) ++ "."

theorem kept_cons (condition : Bool) (remark : String) (remarks : List (Bool × String)) :
    kept ((condition, remark) :: remarks) =
      ModuleDetail.remarkIf condition remark ++ kept remarks := by
  cases condition <;> rfl

end LocalFacts

def Graph.nameOf? (id : String) (g : Graph) : Option String :=
  (g.nodes.toList.find? fun node => node.id = id).map (·.name)

/-- The facts are those that the graph has of a node. -/
structure LocalFacts.Hold (f : LocalFacts) (g : Graph) (node : ModuleNode) : Prop where
  kind : f.kind = node.kind
  name : f.name = node.name
  nspace : f.nspace = node.nspace
  fanOut : f.fanOut = (g.edges.toList.filter fun e => e.source = node.id).length
  fanIn : f.fanIn = (g.edges.toList.filter fun e => e.target = node.id).length
  dependencies : f.dependencies.map some =
    (g.edges.toList.filter fun e => e.source = node.id).map fun e => g.nameOf? e.target
  dependents : f.dependents.map some =
    (g.edges.toList.filter fun e => e.target = node.id).map fun e => g.nameOf? e.source
  inCycle_iff : f.inCycle = true ↔ ∃ t, Edge.importing node.id t ∈ g.edges.toList ∧
    Edge.importing t node.id ∈ g.edges.toList
  cycles : f.cycles.map some =
    (g.edges.toList.filter fun e => e.source = node.id ∧
      Edge.importing e.target node.id ∈ g.edges.toList).map fun e => g.nameOf? e.target
  atRisk_iff : f.atRisk = true ↔
    ∃ p ∈ g.packages.toList.take 50, "High".toList <+: p.risk.toList
  highRisk : f.highRisk =
    ((g.packages.toList.take 50).filter fun p => "High".toList <+: p.risk.toList).map fun p =>
      p.name ++ " " ++ p.version ++ " (" ++ p.risk ++ ")"

namespace ModuleDetail

open LocalFacts (kept kept_cons namesOrNone)

def facts (d : ModuleDetail) : LocalFacts where
  kind := d.kind
  name := d.name
  nspace := d.nspace
  fanOut := d.fanOut
  fanIn := d.fanIn
  dependencies := d.targetNames
  dependents := d.sourceNames
  inCycle := !d.cycleNames.isEmpty
  cycles := d.cycleNames
  atRisk := !d.highRiskNotes.isEmpty
  highRisk := d.highRiskNotes

theorem risks_eq_kept (d : ModuleDetail) : d.risks = kept
    [(true, "fan-out " ++ toString d.fanOut ++ ", fan-in " ++ toString d.fanIn),
      (10 < d.fanOut, "high fan-out, many reasons to change"),
      (10 < d.fanIn, "high fan-in, changes ripple widely"),
      (!d.cycleNames.isEmpty, "direct cycle with " ++ String.intercalate ", " d.cycleNames),
      (!d.highRiskNotes.isEmpty,
        "high-risk packages in the store: " ++ String.intercalate ", " d.highRiskNotes)] := by
  have hnil : kept [] = [] := rfl
  simp only [risks, kept_cons, hnil, List.append_assoc, List.append_nil]
  rfl

theorem suggestions_eq_kept (d : ModuleDetail) : d.suggestions = kept
    [(!d.cycleNames.isEmpty, "break the cycle behind an interface"),
      (10 < d.fanOut, "split responsibilities into smaller types"),
      (10 < d.fanIn, "extract an interface to stabilize dependents"),
      (true, "add tests around the public surface")] := by
  simp only [suggestions, kept_cons, List.append_assoc]
  rfl

theorem listOrNone_eq (items : List String) : listOrNone items = namesOrNone items := by
  cases items <;> rfl

theorem localExplanation_eq_text (d : ModuleDetail) : d.localExplanation = d.facts.text := by
  -- not by rewriting, whose equations would evaluate the long literals
  unfold localExplanation LocalFacts.text facts
  rw [risks_eq_kept, suggestions_eq_kept, listOrNone_eq, listOrNone_eq]

variable (node : ModuleNode) (targets sources : List ModuleNode) (packages : List Package)

theorem targetNames_assembleDetail :
    (GraphStore.assembleDetail node targets sources packages).targetNames =
      targets.map (·.name) := by
  simp only [targetNames, GraphStore.assembleDetail, List.map_map, Function.comp_def]

theorem sourceNames_assembleDetail :
    (GraphStore.assembleDetail node targets sources packages).sourceNames =
      sources.map (·.name) := by
  simp only [sourceNames, GraphStore.assembleDetail, List.map_map, Function.comp_def]

theorem cycleNames_assembleDetail :
    (GraphStore.assembleDetail node targets sources packages).cycleNames =
      (targets.filter fun t => t.id ∈ sources.map (·.id)).map (·.name) := by
  have hcyclic (id : String) : (sources.any fun t => t.id == id) =
      decide (id ∈ sources.map (·.id)) := by
    rw [Bool.eq_iff_iff, List.any_eq_true, decide_eq_true_iff, List.mem_map]
    simp only [beq_iff_eq]
  simp only [cycleNames, GraphStore.assembleDetail, List.filter_map, List.map_map, List.any_map,
    Function.comp_def, hcyclic]

theorem highRiskNotes_assembleDetail :
    (GraphStore.assembleDetail node targets sources packages).highRiskNotes =
      (packages.filter fun p => "High".toList <+: p.risk.toList).map packageNote := by
  rw [highRiskNotes]
  congr 1
  apply List.filter_congr
  intro p _
  rw [Package.isHighRisk, Bool.eq_iff_iff, List.isPrefixOf_iff_prefix, decide_eq_true_iff]

end ModuleDetail

namespace Contents

variable {c : Contents}

theorem map_some_names {far : Edge → String} (hfar : ∀ e ∈ c.edges, far e ∈ c.ids) (p : Edge → Bool) :
    (((c.edges.filter p).filterMap fun e => c.getNode (far e)).map (·.name)).map some =
      (c.edges.filter p).map fun e => (c.getNode (far e)).map (·.name) := by
  have hnodes := congrArg (List.map (Option.map ModuleNode.name)) (map_some_getNode hfar p)
  rw [List.map_map, List.map_map] at hnodes
  rw [List.map_map]
  exact hnodes

theorem WellFormed.mem_ids_sourcesOf (h : c.WellFormed) (id other : String) :
    other ∈ (c.sourcesOf id).map (·.id) ↔ Edge.importing other id ∈ c.edges := by
  rw [sourcesOf, ids_neighbours h.source_mem]
  simp only [List.mem_map, List.mem_filter, decide_eq_true_iff]
  constructor
  · rintro ⟨e, ⟨he, htarget⟩, hsource⟩
    exact (e.eq_importing_iff other id).mpr ⟨hsource, htarget⟩ ▸ he
  · intro he
    exact ⟨_, ⟨he, rfl⟩, rfl⟩

theorem WellFormed.filter_cyclic (h : c.WellFormed) (id : String) :
    ((c.targetsOf id).filter fun t => t.id ∈ (c.sourcesOf id).map (·.id)) =
      (c.edges.filter fun e => e.source = id ∧ Edge.importing e.target id ∈ c.edges).filterMap
        fun e => c.getNode e.target := by
  simp only [h.mem_ids_sourcesOf]
  rw [targetsOf, filter_neighbours (·.source) (·.target) id
    fun other => decide (Edge.importing other id ∈ c.edges)]
  simp only [decide_eq_true_iff]

theorem filter_cyclic_ne_nil_iff (c : Contents) (id : String) :
    (c.edges.filter fun e => e.source = id ∧ Edge.importing e.target id ∈ c.edges) ≠ [] ↔
      ∃ t, Edge.importing id t ∈ c.edges ∧ Edge.importing t id ∈ c.edges := by
  simp only [ne_eq, List.filter_eq_nil_iff, decide_eq_true_iff, not_forall, not_not, exists_prop]
  constructor
  · rintro ⟨e, he, hsource, hback⟩
    exact ⟨e.target, (e.eq_importing_iff id e.target).mpr ⟨hsource, rfl⟩ ▸ he, hback⟩
  · rintro ⟨t, he, hback⟩
    exact ⟨_, he, rfl, hback⟩

end Contents

open Contents ModuleDetail in
theorem Graph.facts_hold {g : Graph} (h : g.contents.WellFormed) (node : ModuleNode) :
    (GraphStore.assembleDetail node (g.contents.targetsOf node.id) (g.contents.sourcesOf node.id)
      (g.packages.toList.take 50)).facts.Hold g node := by
  have hcycles := congrArg (List.map some) (cycleNames_assembleDetail node
    (g.contents.targetsOf node.id) (g.contents.sourcesOf node.id) (g.packages.toList.take 50))
  rw [h.filter_cyclic, map_some_names h.target_mem] at hcycles
  have hrisk := highRiskNotes_assembleDetail node (g.contents.targetsOf node.id)
    (g.contents.sourcesOf node.id) (g.packages.toList.take 50)
  constructor
  case kind => rfl
  case name => rfl
  case nspace => rfl
  case fanOut => exact (List.length_map _).trans (length_neighbours h.target_mem node.id)
  case fanIn => exact (List.length_map _).trans (length_neighbours h.source_mem node.id)
  case dependencies =>
    rw [facts, targetNames_assembleDetail]
    exact map_some_names h.target_mem fun e => e.source = node.id
  case dependents =>
    rw [facts, sourceNames_assembleDetail]
    exact map_some_names h.source_mem fun e => e.target = node.id
  case cycles => exact hcycles
  case inCycle_iff =>
    -- there are as many names as edges with an edge back, so the one list is empty as the other is
    have hempty := congrArg List.isEmpty hcycles
    rw [List.isEmpty_map, List.isEmpty_map] at hempty
    rw [facts, hempty, Bool.not_eq_true', List.isEmpty_eq_false_iff]
    exact g.contents.filter_cyclic_ne_nil_iff node.id
  case highRisk => exact hrisk
  case atRisk_iff =>
    rw [facts, hrisk, List.isEmpty_map, Bool.not_eq_true', List.isEmpty_eq_false_iff]
    simp

namespace Query

open MemoryStore

theorem explain_disabled_eq {s : MemoryStore} {c : Contents} (h : Shows s ⟨some c⟩) (id : String) :
    explain .disabled id s =
      .ok ((c.detail id).map fun d => { id, explanation := d.facts.text }) := by
  rw [explain, moduleDetail, h.moduleDetail_eq]
  cases c.detail id with
  | none => rfl
  | some d =>
    rw [Option.map_some, ← d.localExplanation_eq_text]
    rfl

/-- Once a store has a schema, whatever it was used for before, without a language model just the stored
modules are explained, each by the template filled with the facts of the graph. -/
theorem explain_disabled (calls : List Call)
    (hready : (Call.after fresh calls).schemaReady = true) (id : String) :
    let s := Call.after fresh calls
    (explain .disabled id s = .ok none ↔ ∀ node ∈ s.graph.nodes.toList, node.id ≠ id) ∧
      ∀ node ∈ s.graph.nodes.toList, node.id = id → ∃ facts : LocalFacts, facts.Hold s.graph node ∧
        explain .disabled id s = .ok (some { id, explanation := facts.text }) := by
  intro s
  have hs : Shows s ⟨some s.graph.contents⟩ := shows_after calls hready
  rw [explain_disabled_eq hs]
  constructor
  · rw [Except.ok.injEq, Option.map_eq_none_iff, Contents.detail, Option.map_eq_none_iff,
      Contents.getNode, lookup?, List.find?_eq_none]
    simp only [decide_eq_true_iff]
    rfl
  · rintro node hnode rfl
    refine ⟨_, Graph.facts_hold hs.wellFormed node, ?_⟩
    rw [hs.wellFormed.detail_of_mem hnode]
    rfl

/-- A module imports itself and one that imports it, and both have one name. One package has a high
risk. -/
theorem explain_disabled_cycles :
    let node (id : String) : ModuleNode := ⟨id, "A", "N", .cls, "a.txt"⟩
    let package (name risk : String) : Package := { Package.plain name "1" with risk }
    let calls : List Call :=
      [.ensureSchema, .ingest [node "a", node "b"]
        [.importing "b" "a", .importing "a" "b", .importing "a" "a"]
        [package "J" "High: leaks", package "K" "Low, not High"]]
    let s := Call.after fresh calls
    s.schemaReady = true ∧
      (explain .disabled "a" s = .ok none ↔ ∀ node ∈ s.graph.nodes.toList, node.id ≠ "a") ∧
        ∀ node ∈ s.graph.nodes.toList, node.id = "a" → ∃ facts : LocalFacts,
          facts.Hold s.graph node ∧
            explain .disabled "a" s = .ok (some { id := "a", explanation := facts.text }) := by
  intro node package calls s
  have hready : s.schemaReady = true := schemaReady_after calls
  exact ⟨hready, explain_disabled calls hready "a"⟩

end Query

end CodeAtlas
