import CodeAtlas.Linker.NamespaceIndex
import CodeAtlas.Proofs.Keyed.Positions
import CodeAtlas.Proofs.Keyed.Sort
import CodeAtlas.Proofs.Text.Prefix

/-!
# The namespace index against a scan

Entries stand in strictly increasing order of their namespaces, so the binary search ends where the
first namespace with a given start would stand, and all of them follow it. A lookup therefore gives
what a scan of the node list gives.
-/

namespace CodeAtlas

namespace NamespaceIndex

section Runs

variable {α : Type} {p : α → Bool}

theorem takeWhile_eq_filter {l : List α} (h : l.Pairwise fun a b => p b → p a) :
    l.takeWhile p = l.filter p := by
  induction l with
  | nil => rfl
  | cons a l ih =>
    rw [List.pairwise_cons] at h
    by_cases ha : p a
    · rw [List.takeWhile_cons_of_pos ha, List.filter_cons_of_pos ha, ih h.2]
    · have hnone : l.filter p = [] := List.filter_eq_nil_iff.mpr fun b hb hpb => ha (h.1 b hb hpb)
      rw [List.takeWhile_cons_of_neg ha, List.filter_cons_of_neg ha, hnone]

theorem dropWhile_eq_filter {l : List α} (h : l.Pairwise fun a b => p b → p a) :
    l.dropWhile p = l.filter fun a => !p a := by
  induction l with
  | nil => rfl
  | cons a l ih =>
    rw [List.pairwise_cons] at h
    by_cases ha : p a
    · rw [List.dropWhile_cons_of_pos ha, List.filter_cons_of_neg (by simpa using ha), ih h.2]
    · have hall : (a :: l).filter (fun b => !p b) = a :: l := by
        rw [List.filter_eq_self]
        intro b hb
        rcases List.mem_cons.mp hb with rfl | hb
        · simpa using ha
        · simpa using fun hpb => ha (h.1 b hb hpb)
      rw [List.dropWhile_cons_of_neg ha, hall]

theorem filter_append_filter_not {l : List α} (h : l.Pairwise fun a b => p b → p a) :
    (l.filter p ++ l.filter fun a => !p a) = l := by
  rw [← takeWhile_eq_filter h, ← dropWhile_eq_filter h, List.takeWhile_append_dropWhile]

end Runs

/-- The search ends at the border of `p`, wherever between its bounds that lies. -/
theorem partitionFrom_eq (entries : Array NamespaceEntry) (p : NamespaceEntry → Bool)
    (border low high : Nat) (hlow : low ≤ border) (hhigh : border ≤ high)
    (hsize : high ≤ entries.size)
    (hbelow : ∀ i (h : i < entries.size), i < border → p entries[i])
    (habove : ∀ i (h : i < entries.size), border ≤ i → ¬ p entries[i]) :
    partitionFrom entries p low high = border := by
  fun_induction partitionFrom entries p low high with
  | case1 low high hlt middle hnone =>
    have hmid : middle < entries.size := by omega
    rw [Array.getElem?_eq_getElem hmid] at hnone
    cases hnone
  | case2 low high hlt middle entry hentry hp ih =>
    have hmid : middle < entries.size := by omega
    rw [Array.getElem?_eq_getElem hmid, Option.some_inj] at hentry
    have hborder : middle < border := by
      by_contra hge
      exact habove middle hmid (by omega) (hentry ▸ hp)
    exact ih (by omega) hhigh hsize
  | case3 low high hlt middle entry hentry hp ih =>
    have hmid : middle < entries.size := by omega
    rw [Array.getElem?_eq_getElem hmid, Option.some_inj] at hentry
    have hborder : border ≤ middle := by
      by_contra hge
      exact hp (hentry ▸ hbelow middle hmid (by omega))
    exact ih hlow hborder (by omega)
  | case4 low high hge => omega

theorem partitionPoint_eq {entries : Array NamespaceEntry} {p : NamespaceEntry → Bool}
    {xs ys : List NamespaceEntry} (h : entries.toList = xs ++ ys) (hxs : ∀ e ∈ xs, p e)
    (hys : ∀ e ∈ ys, ¬ p e) : partitionPoint entries p = xs.length := by
  have hget (i : Nat) (hi : i < entries.size) : (xs ++ ys)[i]? = some entries[i] := by
    rw [← h, Array.getElem?_toList, Array.getElem?_eq_getElem hi]
  have hsize : entries.size = xs.length + ys.length := by
    rw [← Array.length_toList, h, List.length_append]
  apply partitionFrom_eq
  · exact Nat.zero_le _
  · omega
  · exact Nat.le_refl _
  · intro i hi hlt
    have hi' := hget i hi
    rw [List.getElem?_append_left hlt] at hi'
    exact hxs _ (List.mem_of_getElem? hi')
  · intro i hi hle
    have hi' := hget i hi
    rw [List.getElem?_append_right hle] at hi'
    exact hys _ (List.mem_of_getElem? hi')

/-- The entries with a start stand together, and the search for them ends where they begin. -/
theorem exists_run {entries : Array NamespaceEntry}
    (hsorted : entries.toList.Pairwise fun a b => a.nspace < b.nspace) (start : String) :
    ∃ below run above, entries.toList = below ++ (run ++ above) ∧
      partitionPoint entries (fun entry => decide (entry.nspace < start)) = below.length ∧
      (∀ entry ∈ run, Text.startsWith start entry.nspace) ∧
      ∀ entry, entry ∈ below ∨ entry ∈ above → ¬ Text.startsWith start entry.nspace := by
  have hbefore : entries.toList.Pairwise fun a b =>
      decide (b.nspace < start) → decide (a.nspace < start) :=
    hsorted.imp fun hab hb => decide_eq_true (hab.trans (of_decide_eq_true hb))
  have hsplit := filter_append_filter_not hbefore
  -- behind the border nothing comes before the start any more
  have hrest : (entries.toList.filter fun entry => !decide (entry.nspace < start)).Pairwise
      fun a b => Text.startsWith start b.nspace → Text.startsWith start a.nspace := by
    apply (hsorted.filter _).imp_of_mem
    intro a b ha _ hab hb
    have hstart : ¬ a.nspace < start := by
      simpa only [Bool.not_eq_true', decide_eq_false_iff_not] using List.of_mem_filter ha
    exact Text.startsWith_of_between hb (not_lt.mp hstart) hab.le
  have hparts := hsplit
  rw [← filter_append_filter_not hrest] at hparts
  refine ⟨_, _, _, hparts.symm, partitionPoint_eq hsplit.symm ?_ ?_, ?_, ?_⟩
  · exact fun entry he => (List.mem_filter.mp he).2
  · intro entry he
    simpa using (List.mem_filter.mp he).2
  · exact fun entry he => (List.mem_filter.mp he).2
  · rintro entry (he | he) hs
    · have hlt : entry.nspace < start := of_decide_eq_true (List.mem_filter.mp he).2
      exact not_lt.mpr (Text.le_of_startsWith hs) hlt
    · simpa [hs] using (List.mem_filter.mp he).2

def flatten (entries : List NamespaceEntry) : List (String × Nat) :=
  entries.flatMap fun entry => entry.positions.map (Prod.mk entry.nspace)

theorem flatten_groupRuns (pairs : List (String × Nat)) : flatten (groupRuns pairs) = pairs := by
  induction pairs with
  | nil => rfl
  | cons pair rest ih =>
    obtain ⟨nspace, position⟩ := pair
    rw [groupRuns]
    cases hg : groupRuns rest with
    | nil =>
      rw [hg] at ih
      simp [flatten, ← ih]
    | cons entry entries =>
      rw [hg] at ih
      by_cases he : entry.nspace = nspace
      · simp [flatten, he, ← ih]
      · simp [flatten, he, ← ih]

theorem mem_groupRuns {pairs : List (String × Nat)} {entry : NamespaceEntry}
    (h : entry ∈ groupRuns pairs) : ∃ pair ∈ pairs, pair.1 = entry.nspace := by
  induction pairs generalizing entry with
  | nil => simp [groupRuns] at h
  | cons pair rest ih =>
    obtain ⟨nspace, position⟩ := pair
    rw [groupRuns] at h
    cases hg : groupRuns rest with
    | nil =>
      rw [hg, List.mem_singleton] at h
      exact ⟨_, List.mem_cons_self, by rw [h]⟩
    | cons first entries =>
      rw [hg] at h ih
      have hcases : entry.nspace = nspace ∨ entry ∈ first :: entries := by
        by_cases he : first.nspace = nspace
        · simp only [he, if_true, List.mem_cons] at h
          exact h.imp (fun heq => by rw [heq]) (List.mem_cons_of_mem first)
        · simp only [he, if_false, List.mem_cons] at h
          exact h.imp (fun heq => by rw [heq]) List.mem_cons.mpr
      rcases hcases with heq | hmem
      · exact ⟨_, List.mem_cons_self, heq.symm⟩
      · obtain ⟨pair, hpair, heq⟩ := ih hmem
        exact ⟨pair, List.mem_cons_of_mem _ hpair, heq⟩

theorem pairwise_groupRuns {pairs : List (String × Nat)}
    (h : pairs.Pairwise fun a b => a.1 ≤ b.1) :
    (groupRuns pairs).Pairwise fun a b => a.nspace < b.nspace := by
  induction pairs with
  | nil => exact List.Pairwise.nil
  | cons pair rest ih =>
    obtain ⟨nspace, position⟩ := pair
    rw [List.pairwise_cons] at h
    have hrest := ih h.2
    have hle (entry : NamespaceEntry) (he : entry ∈ groupRuns rest) : nspace ≤ entry.nspace := by
      obtain ⟨pair, hpair, heq⟩ := mem_groupRuns he
      exact heq ▸ h.1 pair hpair
    rw [groupRuns]
    cases hg : groupRuns rest with
    | nil => exact List.pairwise_singleton _ _
    | cons first entries =>
      rw [hg] at hrest hle
      by_cases he : first.nspace = nspace
      · simp only [he, if_true]
        rw [List.pairwise_cons] at hrest ⊢
        exact ⟨fun entry hm => he ▸ hrest.1 entry hm, hrest.2⟩
      · simp only [he, if_false]
        have hlt : nspace < first.nspace :=
          lt_of_le_of_ne (hle first List.mem_cons_self) (Ne.symm he)
        rw [List.pairwise_cons]
        refine ⟨fun entry hm => ?_, hrest⟩
        rcases List.mem_cons.mp hm with rfl | hm
        · exact hlt
        · exact hlt.trans ((List.pairwise_cons.mp hrest).1 entry hm)

theorem filter_flatten (q : String → Bool) (entries : List NamespaceEntry) :
    (flatten entries).filter (fun pair => q pair.1) =
      flatten (entries.filter fun entry => q entry.nspace) := by
  induction entries with
  | nil => rfl
  | cons entry entries ih =>
    simp only [flatten, List.flatMap_cons, List.filter_append] at ih ⊢
    rw [ih]
    by_cases hq : q entry.nspace <;> simp [hq, List.filter_map, Function.comp_def]

theorem map_snd_flatten (entries : List NamespaceEntry) :
    (flatten entries).map Prod.snd = entries.flatMap (·.positions) := by
  simp [flatten, List.map_flatMap, Function.comp_def]

theorem flatten_build (nodes : List ModuleNode) :
    flatten (build nodes).entries.toList = sortedNamespaces nodes :=
  flatten_groupRuns _

theorem pairwise_build (nodes : List ModuleNode) :
    (build nodes).entries.toList.Pairwise fun a b => a.nspace < b.nspace :=
  pairwise_groupRuns (Keyed.pairwise_mergeSort_fst _)

theorem getElem?_ids_build (nodes : List ModuleNode) (position : Nat) :
    (build nodes).ids[position]? = nodes[position]?.map (·.id) := by
  rw [build, List.getElem?_toArray, List.getElem?_map]

theorem run_build (nodes : List ModuleNode) (start : String) :
    ((build nodes).entries.toList.drop
      (partitionPoint (build nodes).entries fun entry => decide (entry.nspace < start))).takeWhile
        (fun entry => Text.startsWith start entry.nspace) =
      (build nodes).entries.toList.filter fun entry => Text.startsWith start entry.nspace := by
  obtain ⟨below, run, above, hsplit, hpoint, hrun, hout⟩ := exists_run (pairwise_build nodes) start
  have hbelow : below.filter (fun entry => Text.startsWith start entry.nspace) = [] :=
    List.filter_eq_nil_iff.mpr fun entry he => hout entry (Or.inl he)
  have habove : above.filter (fun entry => Text.startsWith start entry.nspace) = [] :=
    List.filter_eq_nil_iff.mpr fun entry he => hout entry (Or.inr he)
  have hend : above.takeWhile (fun entry => Text.startsWith start entry.nspace) = [] := by
    rw [takeWhile_eq_filter, habove]
    exact List.pairwise_of_forall_mem_list fun a _ b hb hs => absurd hs (hout b (Or.inr hb))
  rw [hpoint, hsplit, List.drop_left, List.takeWhile_append_of_pos hrun, hend, List.filter_append,
    List.filter_append, hbelow, habove, List.filter_eq_self.mpr hrun, List.nil_append]

def scan (nodes : List ModuleNode) (start : String) : List ModuleNode :=
  nodes.filter fun node => Text.startsWith start node.nspace

theorem positions_perm (nodes : List ModuleNode) (start : String) :
    (((build nodes).entries.toList.filter fun entry =>
      Text.startsWith start entry.nspace).flatMap (·.positions)).Perm
        (nodes.findIdxs fun node => Text.startsWith start node.nspace) := by
  rw [← map_snd_flatten, ← filter_flatten, flatten_build]
  have hperm := ((List.mergeSort_perm (nodes.map (·.nspace)).zipIdx
    fun a b => decide (a.1 ≤ b.1)).filter fun pair => Text.startsWith start pair.1).map Prod.snd
  rw [Keyed.map_snd_filter_zipIdx, List.findIdxs_map] at hperm
  exact hperm

theorem mergeSort_positions (nodes : List ModuleNode) (start : String) :
    (((build nodes).entries.toList.filter fun entry =>
      Text.startsWith start entry.nspace).flatMap (·.positions)).mergeSort
        (fun a b => decide (a ≤ b)) =
      nodes.findIdxs fun node => Text.startsWith start node.nspace := by
  apply ((List.mergeSort_perm _ _).trans (positions_perm nodes start)).eq_of_pairwise
  · intro a b _ _ hab hba
    exact Nat.le_antisymm hab hba
  · exact List.pairwise_mergeSort' (· ≤ ·) _
  · exact List.pairwise_findIdxs.imp Nat.le_of_lt

theorem prefixMatches_build (nodes : List ModuleNode) (start : String) (limit : Nat) :
    (build nodes).prefixMatches start limit = ((scan nodes start).take limit).map (·.id) := by
  have hread := Keyed.map_getElem?_findIdxs (fun node => Text.startsWith start node.nspace) nodes
  rw [prefixMatches, run_build, mergeSort_positions]
  simp only [getElem?_ids_build]
  calc ((nodes.findIdxs fun node => Text.startsWith start node.nspace).take limit).filterMap
        (fun position => nodes[position]?.map (·.id))
      = (((nodes.findIdxs fun node => Text.startsWith start node.nspace).map
          fun position => nodes[position]?).take limit).filterMap (Option.map (·.id)) := by
        rw [← List.map_take, List.filterMap_map]
        rfl
    _ = ((scan nodes start).take limit).map (·.id) := by
        rw [hread, ← List.map_take, List.filterMap_map]
        exact congrFun (List.filterMap_eq_map (f := ModuleNode.id)) _

end NamespaceIndex

end CodeAtlas
