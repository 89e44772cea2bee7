import CodeAtlas.Proofs.Store.Contents

/-!
# Stores that answer alike

A store is used by calls, one after another. Two stores answer every sequence of calls alike if some
relation between them survives each operation; failures agree whatever error is told. The plain store
is nothing but contents, and every store is compared with it.
-/

namespace CodeAtlas

inductive Call where
  | ensureSchema
  | upsert (write : Upsert)
  | ingest (nodes : List ModuleNode) (edges : List Edge) (packages : List Package)
  | getNode (id : String)
  | listNodes (limit : Nat)
  | listEdges (limit : Nat)
  | listPackages (limit : Nat)
  | searchNodes (query : String) (limit : Nat)
  | outgoing (id : String)
  | incoming (id : String)
  | moduleDetail (id : String)
  | stats

inductive Answer where
  | done
  | stored (accepted : Bool)
  | summary (summary : WriteSummary)
  | node (node : Option ModuleNode)
  | nodes (nodes : List ModuleNode)
  | edges (edges : List Edge)
  | packages (packages : List Package)
  | detail (detail : Option ModuleDetail)
  | stats (stats : StoreStats)

namespace Call

open GraphStore

variable {σ : Type} [GraphStore σ]

def upsertAnswer (s : σ) : Upsert → Except Error (Answer × σ)
  | .node node => do
    let s ← upsertNode node s
    .ok (.done, s)
  | .edge edge => do
    let (accepted, s) ← upsertEdge edge s
    .ok (.stored accepted, s)
  | .package package => do
    let s ← upsertPackage package s
    .ok (.done, s)

/-- A failed write leaves the store as it was. -/
def settle (s : σ) : Except Error (Answer × σ) → Except Error Answer × σ
  | .ok (answer, s) => (.ok answer, s)
  | .error e => (.error e, s)

def run (s : σ) : Call → Except Error Answer × σ
  | .ensureSchema => (.ok .done, GraphStore.ensureSchema s)
  | .upsert write => settle s (upsertAnswer s write)
  | .ingest nodes edges packages =>
    let (outcome, s) := GraphStore.ingest nodes edges packages s
    (outcome.map .summary, s)
  | .getNode id => ((GraphStore.getNode id s).map .node, s)
  | .listNodes limit => ((GraphStore.listNodes limit s).map .nodes, s)
  | .listEdges limit => ((GraphStore.listEdges limit s).map .edges, s)
  | .listPackages limit => ((GraphStore.listPackages limit s).map .packages, s)
  | .searchNodes query limit => ((GraphStore.searchNodes query limit s).map .nodes, s)
  | .outgoing id => ((GraphStore.outgoing id s).map .nodes, s)
  | .incoming id => ((GraphStore.incoming id s).map .nodes, s)
  | .moduleDetail id => ((GraphStore.moduleDetail id s).map .detail, s)
  | .stats => ((GraphStore.stats s).map .stats, s)

def outcomes (s : σ) : List Call → List (Except Error Answer)
  | [] => []
  | call :: calls => (run s call).1 :: outcomes (run s call).2 calls

def after (s : σ) (calls : List Call) : σ := calls.foldl (fun s call => (run s call).2) s

theorem after_cons (s : σ) (call : Call) (calls : List Call) :
    after s (call :: calls) = after (run s call).2 calls := rfl

theorem getElem?_outcomes (s : σ) (before rest : List Call) (call : Call) :
    (outcomes s (before ++ call :: rest))[before.length]? = some (run (after s before) call).1 := by
  induction before generalizing s with
  | nil => rfl
  | cons first before ih => exact ih (run s first).2

end Call

/-- Both succeed with related results, or both fail. -/
inductive Agree {α β : Type} (R : α → β → Prop) : Except Error α → Except Error β → Prop where
  | ok {a : α} {b : β} (h : R a b) : Agree R (.ok a) (.ok b)
  | error {e e' : Error} : Agree R (.error e) (.error e')

namespace Agree

variable {α β γ δ : Type} {R : α → β → Prop} {S : γ → δ → Prop}

theorem bind {x : Except Error α} {y : Except Error β} {f : α → Except Error γ}
    {g : β → Except Error δ} (h : Agree R x y) (hfg : ∀ a b, R a b → Agree S (f a) (g b)) :
    Agree S (x >>= f) (y >>= g) := by
  cases h with
  | ok hab => exact hfg _ _ hab
  | error => exact .error

theorem map {x y : Except Error α} (h : Agree Eq x y) (f : α → γ) :
    Agree Eq (x.map f) (y.map f) := by
  cases h with
  | ok hab => exact .ok (congrArg f hab)
  | error => exact .error

theorem exists_ok {x : Except Error α} {b : β} (h : Agree R x (.ok b)) :
    ∃ a, x = .ok a ∧ R a b := by
  cases h with
  | ok hab => exact ⟨_, rfl, hab⟩

theorem eq_ok {x : Except Error α} {a : α} (h : Agree Eq x (.ok a)) : x = .ok a := by
  cases h with
  | ok hab => rw [hab]

theorem toOption_eq {x y : Except Error α} (h : Agree Eq x y) : x.toOption = y.toOption := by
  cases h with
  | ok hab => rw [hab]
  | error => rfl

end Agree

def Alongside {α σ τ : Type} (R : σ → τ → Prop) (a : α × σ) (b : α × τ) : Prop :=
  a.1 = b.1 ∧ R a.2 b.2

theorem Agree.settle {σ τ : Type} {R : σ → τ → Prop} {s : σ} {t : τ} (h : R s t)
    {x : Except Error (Answer × σ)} {y : Except Error (Answer × τ)}
    (hxy : Agree (Alongside R) x y) :
    Agree Eq (Call.settle s x).1 (Call.settle t y).1 ∧
      R (Call.settle s x).2 (Call.settle t y).2 := by
  cases hxy with
  | ok hab => exact ⟨.ok hab.1, hab.2⟩
  | error => exact ⟨.error, h⟩

variable {σ τ : Type} [GraphStore σ] [GraphStore τ]

open GraphStore in
/-- A relation that survives every write and answers every read alike. -/
structure Simulation (R : σ → τ → Prop) : Prop where
  ensureSchema : ∀ {s t}, R s t → R (ensureSchema s) (ensureSchema t)
  upsertNode : ∀ {s t}, R s t → ∀ node, Agree R (upsertNode node s) (upsertNode node t)
  upsertEdge : ∀ {s t}, R s t → ∀ edge,
    Agree (Alongside R) (upsertEdge edge s) (upsertEdge edge t)
  upsertPackage : ∀ {s t}, R s t → ∀ package,
    Agree R (upsertPackage package s) (upsertPackage package t)
  getNode : ∀ {s t}, R s t → ∀ id, Agree Eq (getNode id s) (getNode id t)
  listNodes : ∀ {s t}, R s t → ∀ limit, Agree Eq (listNodes limit s) (listNodes limit t)
  listEdges : ∀ {s t}, R s t → ∀ limit, Agree Eq (listEdges limit s) (listEdges limit t)
  listPackages : ∀ {s t}, R s t → ∀ limit,
    Agree Eq (listPackages limit s) (listPackages limit t)
  searchNodes : ∀ {s t}, R s t → ∀ query limit,
    Agree Eq (searchNodes query limit s) (searchNodes query limit t)
  outgoing : ∀ {s t}, R s t → ∀ id, Agree Eq (outgoing id s) (outgoing id t)
  incoming : ∀ {s t}, R s t → ∀ id, Agree Eq (incoming id s) (incoming id t)
  stats : ∀ {s t}, R s t → Agree Eq (stats s) (stats t)

namespace Simulation

variable {R : σ → τ → Prop} {s : σ} {t : τ}

theorem apply (sim : Simulation R) (h : R s t) (u : Upsert) (summary : WriteSummary) :
    Agree (Alongside R) (GraphStore.apply u summary s) (GraphStore.apply u summary t) := by
  cases u with
  | node node =>
    apply (sim.upsertNode h node).bind
    intro s' t' h'
    exact .ok ⟨rfl, h'⟩
  | edge edge =>
    apply (sim.upsertEdge h edge).bind
    rintro ⟨accepted, s'⟩ ⟨accepted', t'⟩ ⟨haccepted, h'⟩
    cases haccepted
    cases accepted with
    | false => exact .ok ⟨rfl, h'⟩
    | true => exact .ok ⟨rfl, h'⟩
  | package package =>
    apply (sim.upsertPackage h package).bind
    intro s' t' h'
    exact .ok ⟨rfl, h'⟩

theorem applyAll (sim : Simulation R) (h : R s t) (writes : List Upsert)
    (summary : WriteSummary) :
    Agree Eq (GraphStore.applyAll summary s writes).1 (GraphStore.applyAll summary t writes).1 ∧
      R (GraphStore.applyAll summary s writes).2 (GraphStore.applyAll summary t writes).2 := by
  induction writes generalizing s t summary with
  | nil => exact ⟨.ok rfl, h⟩
  | cons u writes ih =>
    have hstep := sim.apply h u summary
    rw [GraphStore.applyAll, GraphStore.applyAll]
    generalize GraphStore.apply u summary s = x at hstep ⊢
    generalize GraphStore.apply u summary t = y at hstep ⊢
    cases hstep with
    | @ok a b hab =>
      obtain ⟨summary', s'⟩ := a
      obtain ⟨summary'', t'⟩ := b
      obtain ⟨hsummary, h'⟩ := hab
      cases hsummary
      exact ih h' summary'
    | error => exact ⟨.error, h⟩

theorem moduleDetail (sim : Simulation R) (h : R s t) (id : String) :
    Agree Eq (GraphStore.moduleDetail id s) (GraphStore.moduleDetail id t) := by
  apply (sim.getNode h id).bind
  intro node? _ hnode
  cases hnode
  cases node? with
  | none => exact .ok rfl
  | some node =>
    apply (sim.outgoing h id).bind
    intro targets _ htargets
    apply (sim.incoming h id).bind
    intro sources _ hsources
    apply (sim.listPackages h detailPackageLimit).bind
    intro packages _ hpackages
    cases htargets
    cases hsources
    cases hpackages
    exact .ok rfl

theorem upsertAnswer (sim : Simulation R) (h : R s t) (u : Upsert) :
    Agree (Alongside R) (Call.upsertAnswer s u) (Call.upsertAnswer t u) := by
  cases u with
  | node node =>
    apply (sim.upsertNode h node).bind
    intro s' t' h'
    exact .ok ⟨rfl, h'⟩
  | edge edge =>
    apply (sim.upsertEdge h edge).bind
    rintro ⟨accepted, s'⟩ ⟨accepted', t'⟩ ⟨haccepted, h'⟩
    exact .ok ⟨congrArg Answer.stored haccepted, h'⟩
  | package package =>
    apply (sim.upsertPackage h package).bind
    intro s' t' h'
    exact .ok ⟨rfl, h'⟩

theorem run (sim : Simulation R) (h : R s t) (call : Call) :
    Agree Eq (call.run s).1 (call.run t).1 ∧ R (call.run s).2 (call.run t).2 := by
  cases call with
  | ensureSchema => exact ⟨.ok rfl, sim.ensureSchema h⟩
  | upsert write => exact (sim.upsertAnswer h write).settle h
  | ingest nodes edges packages =>
    obtain ⟨houtcome, h'⟩ :=
      sim.applyAll h (GraphStore.batch nodes edges packages) .zero
    exact ⟨houtcome.map _, h'⟩
  | getNode id => exact ⟨(sim.getNode h id).map _, h⟩
  | listNodes limit => exact ⟨(sim.listNodes h limit).map _, h⟩
  | listEdges limit => exact ⟨(sim.listEdges h limit).map _, h⟩
  | listPackages limit => exact ⟨(sim.listPackages h limit).map _, h⟩
  | searchNodes query limit => exact ⟨(sim.searchNodes h query limit).map _, h⟩
  | outgoing id => exact ⟨(sim.outgoing h id).map _, h⟩
  | incoming id => exact ⟨(sim.incoming h id).map _, h⟩
  | moduleDetail id => exact ⟨(sim.moduleDetail h id).map _, h⟩
  | stats => exact ⟨(sim.stats h).map _, h⟩

theorem outcomes (sim : Simulation R) (h : R s t) (calls : List Call) :
    (Call.outcomes s calls).map Except.toOption = (Call.outcomes t calls).map Except.toOption := by
  induction calls generalizing s t with
  | nil => rfl
  | cons call calls ih =>
    obtain ⟨hanswer, h'⟩ := sim.run h call
    rw [Call.outcomes, Call.outcomes, List.map_cons, List.map_cons, hanswer.toOption_eq, ih h']

theorem after (sim : Simulation R) (h : R s t) (calls : List Call) :
    R (Call.after s calls) (Call.after t calls) := by
  induction calls generalizing s t with
  | nil => exact h
  | cons call calls ih => exact ih (sim.run h call).2

end Simulation

end CodeAtlas
