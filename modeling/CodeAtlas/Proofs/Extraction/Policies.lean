import CodeAtlas.Proofs.Extraction.Outcome
import Mathlib.Data.List.Flatten

/-!
# The two policies side by side

Extracting the same files under either policy fails alike or finds the same ids and the same repeats.
The two differ in what stands under a repeated id, and in the imports of its later declarations.
-/

namespace CodeAtlas

namespace Keyed

variable {α κ : Type} [DecidableEq κ] (key : α → κ)

theorem last?_concat (xs : List α) (x : α) (k : κ) :
    last? key k (xs ++ [x]) = if key x = k then some x else last? key k xs := by
  by_cases hk : key x = k <;> simp [last?, hk]

theorem keepAll_sublist (xs : List α) : (keepAll key [] xs).Sublist xs := by
  induction xs using List.reverseRecOn with
  | nil => exact List.Sublist.slnil
  | append_singleton xs x ih =>
    rw [keepAll_concat, keep]
    by_cases hx : key x ∈ (keepAll key [] xs).map key
    · rw [if_pos hx]
      exact ih.trans (List.sublist_append_left xs [x])
    · rw [if_neg hx]
      exact ih.append_right [x]

theorem last?_of_not_mem_repeats {xs : List α} {k : κ} (h : k ∉ (repeats key xs).map key) :
    last? key k xs = lookup? key k xs := by
  induction xs using List.reverseRecOn with
  | nil => rfl
  | append_singleton xs x ih =>
    rw [repeats_concat] at h
    rw [last?_concat, lookup?_concat]
    by_cases hk : key x = k
    · have hnew : key x ∉ xs.map key := by
        intro hx
        rw [if_pos hx] at h
        simp [hk] at h
      have hnone : lookup? key k xs = none := (lookup?_eq_none_iff key xs k).mpr (hk ▸ hnew)
      simp [hk, hnone]
    · have hold : k ∉ (repeats key xs).map key := by
        intro hm
        apply h
        by_cases hx : key x ∈ xs.map key
        · rw [if_pos hx, List.map_append]
          exact List.mem_append_left _ hm
        · rwa [if_neg hx]
      simp [hk, ih hold]

end Keyed

open Keyed

namespace Extraction

variable {registry : Registry} {project : String}

section InStep

/-- Two extractions are one and the same as long as the first has met no repeat. -/
def InStep (x y : Extraction) : Prop := x.duplicates = #[] → y = x

theorem duplicates_of_addNode {policy : MergePolicy} {imports : List String} {x : Extraction}
    {node : ModuleNode} (h : (x.addNode policy imports node).duplicates = #[]) :
    x.duplicates = #[] ∧ x.positions[node.id]? = none := by
  rw [Extraction.addNode] at h
  cases hp : x.positions[node.id]? with
  | none =>
    rw [hp] at h
    exact ⟨h, rfl⟩
  | some position =>
    rw [hp] at h
    have hpush : x.duplicates.push node.id = #[] := by
      cases policy <;> exact h
    exact absurd hpush Array.push_ne_empty

theorem InStep.addNode {x y : Extraction} (h : InStep x y) (imports : List String)
    (node : ModuleNode) :
    InStep (x.addNode .overwriteById imports node) (y.addNode .keepFirst imports node) := by
  intro hnone
  obtain ⟨hduplicates, hposition⟩ := duplicates_of_addNode hnone
  have hyx : y = x := h hduplicates
  rw [hyx, Extraction.addNode, Extraction.addNode, hposition]

theorem InStep.addParsed {x y : Extraction} (h : InStep x y) (path : String)
    (parsed : ParsedSource) :
    InStep (x.addParsed .overwriteById project path parsed)
      (y.addParsed .keepFirst project path parsed) := by
  apply List.foldl_rel
  · intro hnone
    rw [h hnone]
  · intro node _ x' y' hstep
    exact hstep.addNode parsed.imports node

theorem InStep.skipFile {x y : Extraction} (h : InStep x y) : InStep x.skipFile y.skipFile := by
  intro hnone
  rw [h hnone]

theorem InStep.addFile {x y x' y' : Extraction} {file : SourceFile} (h : InStep x y)
    (hx : x.addFile registry .overwriteById project file = .ok x')
    (hy : y.addFile registry .keepFirst project file = .ok y') : InStep x' y' := by
  cases taken_of_addFile hx with
  | parsed read =>
    cases taken_of_addFile hy with
    | parsed read' =>
      obtain rfl := Except.ok.inj (Option.some.inj (read.symm.trans read'))
      exact h.addParsed file.path _
    | skipped unread => exact absurd read (unread _)
  | skipped unread =>
    cases taken_of_addFile hy with
    | parsed read => exact absurd read (unread _)
    | skipped => exact h.skipFile

theorem InStep.addFiles {x y x' y' : Extraction} {files : List SourceFile} (h : InStep x y)
    (hx : files.foldlM (Extraction.addFile registry .overwriteById project) x = .ok x')
    (hy : files.foldlM (Extraction.addFile registry .keepFirst project) y = .ok y') :
    InStep x' y' := by
  induction files generalizing x y with
  | nil =>
    cases hx
    cases hy
    exact h
  | cons file files ih =>
    rw [List.foldlM_cons] at hx hy
    obtain ⟨x₁, hstepx, hrestx⟩ := (bind_eq_ok_iff _ _ _).mp hx
    obtain ⟨y₁, hstepy, hresty⟩ := (bind_eq_ok_iff _ _ _).mp hy
    exact ih (h.addFile hstepx hstepy) hrestx hresty

end InStep

/-- What two extractions of the same files have in common, where the first overwrites by id and the
second keeps what came first. -/
structure Alike (overwritten kept : Extraction) : Prop where
  ids : kept.nodes.toList.map (·.id) = overwritten.nodes.toList.map (·.id)
  duplicates : kept.duplicates = overwritten.duplicates
  filesParsed : kept.filesParsed = overwritten.filesParsed
  filesSkipped : kept.filesSkipped = overwritten.filesSkipped
  placeholders : kept.placeholders.toList.Sublist overwritten.placeholders.toList
  node : ∀ a ∈ kept.nodes.toList, ∀ b ∈ overwritten.nodes.toList, a.id = b.id →
    a.id ∉ kept.duplicates.toList → a = b
  of_no_duplicates : overwritten.duplicates = #[] → kept = overwritten

theorem Reads.placeholders_sublist {ds : List Declaration} {overwritten kept : Extraction}
    (ho : Reads .overwriteById ds overwritten) (hk : Reads .keepFirst ds kept) :
    kept.placeholders.toList.Sublist overwritten.placeholders.toList := by
  rw [hk.placeholders, ho.placeholders]
  exact (keepAll_sublist Declaration.id ds).flatMap _

theorem Reads.node_eq {ds : List Declaration} {overwritten kept : Extraction}
    (ho : Reads .overwriteById ds overwritten) (hk : Reads .keepFirst ds kept) {a b : ModuleNode}
    (ha : a ∈ kept.nodes.toList) (hb : b ∈ overwritten.nodes.toList) (hid : a.id = b.id)
    (hone : a.id ∉ kept.duplicates.toList) : a = b := by
  have hkept : lookup? (·.id) a.id kept.nodes.toList = some a :=
    lookup?_of_mem (·.id) hk.indexed.nodup ha
  have hover : lookup? (·.id) a.id overwritten.nodes.toList = some b :=
    hid ▸ lookup?_of_mem (·.id) ho.indexed.nodup hb
  rw [hk.duplicates] at hone
  rw [hk.nodes, lookup?_mergedNodes] at hkept
  rw [ho.nodes, lookup?_mergedNodes] at hover
  have hlast : last? Declaration.id a.id ds = lookup? Declaration.id a.id ds :=
    last?_of_not_mem_repeats Declaration.id hone
  simp only [standing, hlast] at hkept hover
  exact Option.some.inj (hkept.symm.trans hover)

theorem alike_extract {files : List SourceFile} {overwritten kept : Extraction}
    (ho : extract registry .overwriteById project files = .ok overwritten)
    (hk : extract registry .keepFirst project files = .ok kept) : Alike overwritten kept := by
  have hreadso := reads_extract ho
  have hreadsk := reads_extract hk
  have hcountso := counts_extract ho
  have hcountsk := counts_extract hk
  have hempty : InStep .empty .empty := fun _ => rfl
  constructor
  case ids => rw [hreadsk.ids_nodes, hreadso.ids_nodes]
  case duplicates =>
    apply Array.toList_inj.mp
    rw [hreadsk.duplicates, hreadso.duplicates]
  case filesParsed => rw [hcountsk.filesParsed, hcountso.filesParsed]
  case filesSkipped => rw [hcountsk.filesSkipped, hcountso.filesSkipped]
  case placeholders => exact hreadso.placeholders_sublist hreadsk
  case node => exact fun a ha b hb => hreadso.node_eq hreadsk ha hb
  case of_no_duplicates => exact hempty.addFiles ho hk

/-- Either both extractions fail, and with one failure, or both succeed alike. -/
inductive Together : Except Error Extraction → Except Error Extraction → Prop where
  | failed (e : Error) : Together (.error e) (.error e)
  | succeeded {overwritten kept : Extraction} (h : Alike overwritten kept) :
      Together (.ok overwritten) (.ok kept)

theorem extract_policies_together (registry : Registry) (project : String)
    (files : List SourceFile) :
    Together (extract registry .overwriteById project files)
      (extract registry .keepFirst project files) := by
  cases ho : extract registry .overwriteById project files with
  | error e =>
    have hstops : registry.StopsFirst files e := (extract_eq_error_iff files e).mp ho
    have hk : extract registry .keepFirst project files = .error e :=
      (extract_eq_error_iff files e).mpr hstops
    rw [hk]
    exact Together.failed e
  | ok overwritten =>
    have hpasses : ∀ file ∈ files, registry.passes file :=
      (exists_extract_iff files).mp ⟨overwritten, ho⟩
    obtain ⟨kept, hk⟩ : ∃ kept, extract registry .keepFirst project files = .ok kept :=
      (exists_extract_iff files).mpr hpasses
    rw [hk]
    exact Together.succeeded (alike_extract ho hk)

end Extraction

end CodeAtlas
