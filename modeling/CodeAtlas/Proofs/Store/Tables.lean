import CodeAtlas.Proofs.Store.Simulation
import CodeAtlas.Store.Tables

/-!
# The store in tables keeps to its contents

Row numbers ascend from each row to the next, so rows are listed in the order of their first write.
The rows are the contents with their kinds as text, and every kind reads back from its text.
-/

namespace CodeAtlas

open Keyed

namespace Table

variable {α κ : Type} [DecidableEq κ]

/-- The table has these values, and their order is that of the row numbers. -/
structure Holds (t : Table α) (xs : List α) : Prop where
  ascending : t.rows.Pairwise fun a b => a.number < b.number
  values : t.rows.map (·.value) = xs

namespace Holds

variable {t : Table α} {xs : List α}

theorem empty : Holds (.empty : Table α) [] := ⟨List.Pairwise.nil, rfl⟩

theorem select_eq (h : t.Holds xs) : t.select = xs := by
  have hle : t.rows.Pairwise fun a b => decide (a.number ≤ b.number) = true := by
    apply h.ascending.imp
    intro a b hab
    exact decide_eq_true (Nat.le_of_lt hab)
  rw [select, List.mergeSort_of_pairwise hle, h.values]

theorem count_eq (h : t.Holds xs) : t.count = xs.length := by
  rw [count, ← h.values, List.length_map]

theorem hasKey_eq (h : t.Holds xs) (key : α → κ) (k : κ) :
    t.hasKey key k = decide (k ∈ xs.map key) := by
  rw [Bool.eq_iff_iff, hasKey, List.any_eq_true, decide_eq_true_iff, ← h.values]
  simp

end Holds

private theorem le_foldl_max (ns : List Nat) (start : Nat) :
    start ≤ ns.foldl max start ∧ ∀ n ∈ ns, n ≤ ns.foldl max start := by
  induction ns generalizing start with
  | nil => simp
  | cons m ns ih =>
    obtain ⟨hstart, hns⟩ := ih (max start m)
    rw [List.foldl_cons, List.forall_mem_cons]
    exact ⟨by omega, by omega, hns⟩

theorem number_lt_nextNumber {t : Table α} {r : Row α} (hr : r ∈ t.rows) :
    r.number < t.nextNumber := by
  have hle := (le_foldl_max (t.rows.map (·.number)) 0).2 r.number (List.mem_map_of_mem hr)
  rw [nextNumber]
  omega

namespace Holds

variable {t : Table α} {xs : List α}

theorem insert (h : t.Holds xs) (x : α) : (t.insert x).Holds (xs ++ [x]) where
  ascending := by
    rw [Table.insert, List.pairwise_append]
    refine ⟨h.ascending, List.pairwise_singleton _ _, ?_⟩
    intro r hr r' hr'
    rw [List.mem_singleton.mp hr']
    exact number_lt_nextNumber hr
  values := by
    rw [Table.insert, List.map_append, h.values]
    rfl

/-- An overwritten row keeps its number, and a new one comes last. -/
theorem upsert (h : t.Holds xs) (key : α → κ) (x : α) :
    (t.upsert key x).Holds (merge key xs x) := by
  by_cases hx : key x ∈ xs.map key
  · have hkey : t.hasKey key (key x) = true := by
      rw [h.hasKey_eq, decide_eq_true hx]
    rw [Table.upsert, if_pos hkey, merge_of_mem key hx, ← h.values]
    constructor
    case ascending =>
      rw [List.pairwise_map]
      apply h.ascending.imp
      intro a b hab
      by_cases ha : key a.value = key x
      · by_cases hb : key b.value = key x
        · simpa [ha, hb]
        · simpa [ha, hb]
      · by_cases hb : key b.value = key x
        · simpa [ha, hb]
        · simpa [ha, hb]
    case values =>
      rw [List.map_map, List.map_map]
      apply List.map_congr_left
      intro r _
      by_cases hr : key r.value = key x <;> simp [hr]
  · have hkey : ¬ t.hasKey key (key x) = true := by
      rw [h.hasKey_eq, decide_eq_true_iff]
      exact hx
    rw [Table.upsert, if_neg hkey, merge_of_not_mem key hx]
    exact h.insert x

end Holds

end Table

theorem ModuleKind.ofText?_label (kind : ModuleKind) : ofText? kind.label = some kind := by
  cases kind <;> decide

theorem EdgeKind.ofText?_label (kind : EdgeKind) : ofText? kind.label = some kind := by
  cases kind
  decide

theorem NodeRow.toNode_ofNode (node : ModuleNode) : (ofNode node).toNode = .ok node := by
  rw [toNode, ofNode, ModuleKind.ofText?_label]

theorem EdgeRow.toEdge_ofEdge (edge : Edge) : (ofEdge edge).toEdge = .ok edge := by
  rw [toEdge, ofEdge, EdgeKind.ofText?_label]

theorem EdgeRow.ofEdge_injective : Function.Injective ofEdge := by
  intro e e' h
  have hread := congrArg toEdge h
  rw [toEdge_ofEdge, toEdge_ofEdge] at hread
  exact Except.ok.inj hread

theorem mapM_map_ok {α β : Type} {f : α → β} {g : β → Except Error α} (h : ∀ a, g (f a) = .ok a)
    (xs : List α) : (xs.map f).mapM g = .ok xs := by
  induction xs with
  | nil => rfl
  | cons x xs ih =>
    rw [List.map_cons, List.mapM_cons, h, ih]
    rfl

theorem instr_pos_eq (needle text : List Char) :
    decide (0 < instr needle text) = Text.occursIn needle text := by
  induction text with
  | nil =>
    rw [instr, Text.occursIn]
    cases needle <;> rfl
  | cons c text ih =>
    rw [instr, Text.occursIn, ← ih]
    by_cases hc : needle.isPrefixOf (c :: text) = true
    · simp [hc]
    · rw [if_neg hc, Bool.eq_false_iff.mpr hc, Bool.false_or]
      cases instr needle text with
      | zero => rfl
      | succ n => simp

namespace Tables

structure Holds (t : Tables) (c : Contents) : Prop where
  modules : t.modules.Holds (c.nodes.map .ofNode)
  edges : t.edges.Holds (c.edges.map .ofEdge)
  packages : t.packages.Holds c.packages
  wellFormed : c.WellFormed

namespace Holds

variable {t : Tables} {c : Contents}

theorem empty : Holds .empty .empty where
  modules := Table.Holds.empty
  edges := Table.Holds.empty
  packages := Table.Holds.empty
  wellFormed := Contents.WellFormed.empty

theorem upsertNode (h : t.Holds c) (node : ModuleNode) :
    Holds { t with modules := t.modules.upsert (·.id) (.ofNode node) } (c.addNode node) where
  modules := by
    have hrows := h.modules.upsert NodeRow.id (.ofNode node)
    rwa [merge_map] at hrows
  edges := h.edges
  packages := h.packages
  wellFormed := h.wellFormed.addNode node

theorem upsertPackage (h : t.Holds c) (package : Package) :
    Holds { t with packages := t.packages.upsert (·.name) package } (c.addPackage package) where
  modules := h.modules
  edges := h.edges
  packages := h.packages.upsert Package.name package
  wellFormed := h.wellFormed.addPackage package

theorem hasModule_eq (h : t.Holds c) (id : String) : t.hasModule id = decide (id ∈ c.ids) := by
  rw [hasModule, h.modules.hasKey_eq, List.map_map]
  rfl

theorem hasEdge_eq (h : t.Holds c) (edge : Edge) :
    t.edges.hasKey id (EdgeRow.ofEdge edge) = decide (edge ∈ c.edges) := by
  rw [h.edges.hasKey_eq, List.map_id, decide_eq_decide]
  exact List.mem_map_of_injective EdgeRow.ofEdge_injective

theorem insertEdge (h : t.Holds c) {edge : Edge} (hacc : c.accepts edge) (hnew : edge ∉ c.edges) :
    Holds { t with edges := t.edges.insert (.ofEdge edge) } (c.addEdge edge) := by
  have hwf := h.wellFormed.addEdge edge
  have hkeep : keep id c.edges edge = c.edges ++ [edge] :=
    keep_of_not_mem id (by simpa using hnew)
  rw [Contents.addEdge_of_accepts hacc, hkeep] at hwf ⊢
  refine ⟨h.modules, ?_, h.packages, hwf⟩
  rw [List.map_append]
  exact h.edges.insert (.ofEdge edge)

/-- A present edge has both ends stored, so that it is present is the right answer where nothing was
inserted. -/
theorem upsertEdge (h : t.Holds c) (edge : Edge) :
    (t.upsertEdge edge).1 = c.accepts edge ∧ (t.upsertEdge edge).2.Holds (c.addEdge edge) := by
  have hends : (t.hasModule edge.source && t.hasModule edge.target) = c.accepts edge := by
    rw [h.hasModule_eq, h.hasModule_eq, Contents.accepts, Bool.decide_and]
  simp only [Tables.upsertEdge, hends, h.hasEdge_eq]
  by_cases hacc : c.accepts edge
  · by_cases hmem : edge ∈ c.edges
    · have hkeep : keep id c.edges edge = c.edges := keep_of_mem id (by simpa using hmem)
      rw [Contents.addEdge_of_accepts hacc, hkeep]
      simp [hacc, hmem, h]
    · have hinsert := h.insertEdge hacc hmem
      simp [hacc, hmem, hinsert]
  · have hmem : edge ∉ c.edges := fun hm => hacc (h.wellFormed.accepts_of_mem edge hm)
    rw [Contents.addEdge_of_not_accepts hacc]
    simp [hacc, hmem, h]

theorem find?_eq (h : t.Holds c) (id : String) :
    (t.modules.select.find? fun m => m.id = id) = (c.getNode id).map .ofNode := by
  rw [h.modules.select_eq, List.find?_map]
  rfl

theorem filter_modules_eq (h : t.Holds c) (id : String) :
    (t.modules.select.filter fun m => m.id = id) = (c.getNode id).toList.map .ofNode := by
  have hnodes := filter_key_eq ModuleNode.id h.wellFormed.ids_nodup id
  rw [h.modules.select_eq, List.filter_map, Contents.getNode, ← hnodes]
  rfl

theorem neighbours_eq (h : t.Holds c) {near far : EdgeRow → String} {near' far' : Edge → String}
    (hnear : ∀ e, near (.ofEdge e) = near' e) (hfar : ∀ e, far (.ofEdge e) = far' e)
    (id : String) :
    t.neighbours near far id = (c.neighbours near' far' id).map .ofNode := by
  have hedges : (t.edges.select.filter fun e => near e = id && e.kind = EdgeKind.imports.label) =
      (c.edges.filter fun e => near' e = id).map .ofEdge := by
    rw [h.edges.select_eq, List.filter_map]
    congr 2
    funext e
    have hkind : (EdgeRow.ofEdge e).kind = EdgeKind.imports.label := by
      cases hkind : e.kind
      rw [EdgeRow.ofEdge, hkind]
    simp [hnear, hkind]
  simp only [neighbours, hedges, h.filter_modules_eq, List.flatMap_map, hfar]
  rw [Contents.neighbours, List.map_filterMap, List.filterMap_eq_flatMap_toList]
  simp only [Option.toList_map]

theorem search_eq (h : t.Holds c) (query : String) (limit : Nat) :
    t.search query limit = (c.search query limit).map .ofNode := by
  rw [Tables.search, Contents.search, h.modules.select_eq, List.filter_map, List.map_take]
  congr 3
  funext node
  rw [Function.comp_apply, Contents.hit, ← instr_pos_eq, ← instr_pos_eq]
  rfl

theorem stats_eq (h : t.Holds c) : t.stats = c.stats := by
  rw [Tables.stats, Contents.stats, h.modules.count_eq, h.edges.count_eq, h.packages.count_eq,
    List.length_map, List.length_map]

end Holds

end Tables

namespace TableStore

/-- The plain store has the contents of the tables, or there is no schema yet. -/
inductive Shows : TableStore → PlainStore → Prop where
  | missing : Shows ⟨none⟩ ⟨none⟩
  | made {t : Tables} {c : Contents} (h : t.Holds c) : Shows ⟨some t⟩ ⟨some c⟩

namespace Shows

variable {s : TableStore} {p : PlainStore}

theorem ensureSchema (h : Shows s p) : Shows s.ensureSchema p.ensureSchema := by
  cases h with
  | missing => exact .made Tables.Holds.empty
  | made h => exact .made h

theorem upsertNode (h : Shows s p) (node : ModuleNode) :
    Agree Shows (GraphStore.upsertNode node s) (GraphStore.upsertNode node p) := by
  cases h with
  | missing => exact .error
  | made h => exact .ok (.made (h.upsertNode node))

theorem upsertPackage (h : Shows s p) (package : Package) :
    Agree Shows (GraphStore.upsertPackage package s) (GraphStore.upsertPackage package p) := by
  cases h with
  | missing => exact .error
  | made h => exact .ok (.made (h.upsertPackage package))

theorem upsertEdge (h : Shows s p) (edge : Edge) :
    Agree (Alongside Shows) (GraphStore.upsertEdge edge s) (GraphStore.upsertEdge edge p) := by
  cases h with
  | missing => exact .error
  | made h => exact .ok ⟨(h.upsertEdge edge).1, .made (h.upsertEdge edge).2⟩

theorem readNodes (h : Shows s p) (first : String) {f : Tables → List NodeRow}
    {f' : Contents → List ModuleNode}
    (hf : ∀ t c, t.Holds c → f t = (f' c).map .ofNode) :
    Agree Eq (TableStore.readNodes first f s) (PlainStore.read f' p) := by
  cases h with
  | missing => exact .error
  | @made t c h =>
    have hread : TableStore.readNodes first f ⟨some t⟩ = .ok (f' c) := by
      change (f t).mapM NodeRow.toNode = _
      rw [hf t c h, mapM_map_ok NodeRow.toNode_ofNode]
    rw [hread]
    exact .ok rfl

theorem getNode (h : Shows s p) (id : String) :
    Agree Eq (GraphStore.getNode id s) (GraphStore.getNode id p) := by
  cases h with
  | missing => exact .error
  | @made t c h =>
    have hread : TableStore.getNode id ⟨some t⟩ = .ok (c.getNode id) := by
      simp only [TableStore.getNode, TableStore.withTables, bind, Except.bind, h.find?_eq]
      cases c.getNode id with
      | none => rfl
      | some node =>
        simp only [Option.map_some, NodeRow.toNode_ofNode]
        rfl
    change Agree Eq (TableStore.getNode id ⟨some t⟩) _
    rw [hread]
    exact .ok rfl

theorem listEdges (h : Shows s p) (limit : Nat) :
    Agree Eq (GraphStore.listEdges limit s) (GraphStore.listEdges limit p) := by
  cases h with
  | missing => exact .error
  | @made t c h =>
    have hread : (t.edges.select.take (min limit maxListedEdges)).mapM EdgeRow.toEdge =
        .ok (c.edges.take (min limit maxListedEdges)) := by
      rw [h.edges.select_eq, ← List.map_take, mapM_map_ok EdgeRow.toEdge_ofEdge]
    change Agree Eq ((t.edges.select.take (min limit maxListedEdges)).mapM EdgeRow.toEdge) _
    rw [hread]
    exact .ok rfl

theorem listPackages (h : Shows s p) (limit : Nat) :
    Agree Eq (GraphStore.listPackages limit s) (GraphStore.listPackages limit p) := by
  cases h with
  | missing => exact .error
  | made h => exact .ok (by rw [h.packages.select_eq])

theorem stats (h : Shows s p) : Agree Eq (GraphStore.stats s) (GraphStore.stats p) := by
  cases h with
  | missing => exact .error
  | made h => exact .ok h.stats_eq

theorem simulation : Simulation Shows where
  ensureSchema h := h.ensureSchema
  upsertNode h node := h.upsertNode node
  upsertEdge h edge := h.upsertEdge edge
  upsertPackage h package := h.upsertPackage package
  getNode h id := h.getNode id
  listNodes h limit := h.readNodes "modules" fun t c ht => by
    rw [ht.modules.select_eq, List.map_take]
  listEdges h limit := h.listEdges limit
  listPackages h limit := h.listPackages limit
  searchNodes h query limit := h.readNodes "modules" fun t c ht => ht.search_eq query limit
  outgoing h id := h.readNodes "edges" fun t c ht =>
    ht.neighbours_eq (fun _ => rfl) (fun _ => rfl) id
  incoming h id := h.readNodes "edges" fun t c ht =>
    ht.neighbours_eq (fun _ => rfl) (fun _ => rfl) id
  stats h := h.stats

end Shows

theorem shows_after (calls : List Call) {tables : Tables}
    (htables : (Call.after fresh calls).tables = some tables) :
    ∃ c, tables.Holds c ∧ Shows (Call.after fresh calls) ⟨some c⟩ := by
  have h : Shows (Call.after fresh calls) (Call.after PlainStore.fresh calls) :=
    Shows.simulation.after Shows.missing calls
  generalize Call.after fresh calls = s at h htables ⊢
  generalize Call.after PlainStore.fresh calls = p at h
  cases h with
  | missing => cases htables
  | made h =>
    cases htables
    exact ⟨_, h, .made h⟩

end TableStore

end CodeAtlas
