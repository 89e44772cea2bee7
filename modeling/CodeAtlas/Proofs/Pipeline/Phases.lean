import CodeAtlas.Proofs.Archive.Intake
import CodeAtlas.Proofs.Extraction.Failure
import CodeAtlas.Proofs.Pipeline.Build

/-!
# The two phases of an ingest

An archive is first made into a graph, and only a graph is written. So a fault of the first phase
leaves every store as it was. There are two such faults: bytes that are no archive, and a source whose
parser fails in another way than by its text. What else an archive holds causes none.
-/

namespace CodeAtlas

open Archive

namespace Pipeline

open ProjectFiles

variable {σ : Type} [GraphStore σ]

/-- The first phase: what an archive is made into. -/
def prepare (p : Pipeline) (project : String) (data : Bytes) : Except Error ProjectGraph := do
  let files ← ofZip p.registry data
  p.build project files

theorem build_eq_error_iff (p : Pipeline) (project : String) (files : ProjectFiles) (e : Error) :
    p.build project files = .error e ↔ p.registry.StopsFirst files.sources e := by
  have hextract : extract p.registry p.policy project files.sources = .error e ↔
      p.registry.StopsFirst files.sources e := Extraction.extract_eq_error_iff files.sources e
  rw [← hextract, build_eq_map]
  cases extract p.registry p.policy project files.sources with
  | ok x => simp [Except.map]
  | error e' => simp [Except.map]

theorem exists_build_iff (p : Pipeline) (project : String) (files : ProjectFiles) :
    (∃ graph, p.build project files = .ok graph) ↔
      ∀ file ∈ files.sources, p.registry.passes file := by
  have hextract : (∃ x, extract p.registry p.policy project files.sources = .ok x) ↔
      ∀ file ∈ files.sources, p.registry.passes file := Extraction.exists_extract_iff files.sources
  rw [← hextract, build_eq_map]
  cases extract p.registry p.policy project files.sources with
  | ok x => simp [Except.map]
  | error e => simp [Except.map]

theorem prepare_of_error (p : Pipeline) (project : String) {data : Bytes} {fault : ArchiveFault}
    (h : readZip data = .error fault) : p.prepare project data = .error (.archive fault) := by
  rw [prepare, ofZip, h]
  rfl

theorem prepare_of_entries (p : Pipeline) (project : String) {data : Bytes}
    {entries : List ArchiveEntry} (h : readZip data = .ok entries) :
    p.prepare project data = p.build project (ofEntries p.registry entries) := by
  rw [prepare, ofZip, h]
  rfl

theorem exists_prepare_iff (p : Pipeline) (project : String) (data : Bytes) :
    (∃ graph, p.prepare project data = .ok graph) ↔ ∃ entries, readZip data = .ok entries ∧
      ∀ file ∈ entries.filterMap (source? p.registry), ∀ e, ¬ p.registry.Stops file e := by
  cases hread : readZip data with
  | error fault =>
    rw [prepare_of_error p project hread]
    simp
  | ok entries =>
    have hsources := (routes_ofEntries p.registry entries).sources
    rw [prepare_of_entries p project hread, exists_build_iff, hsources]
    simp only [Registry.passes_iff, Except.ok.injEq, exists_eq_left']

def writeReporting (project : String) (graph : ProjectGraph) (s : σ) :
    Except Error IngestReport × σ :=
  ((write graph s).1.map fun _ => .ofGraph project graph, (write graph s).2)

theorem ingest_eq (p : Pipeline) (project : String) (files : ProjectFiles) (s : σ) :
    p.ingest project files s =
      match p.build project files with
      | .error e => (.error e, s)
      | .ok graph => writeReporting project graph s := by
  rw [ingest]
  cases p.build project files with
  | error e => rfl
  | ok graph =>
    simp only [writeReporting]
    generalize write graph s = outcome
    obtain ⟨result, after⟩ := outcome
    cases result <;> rfl

theorem ingestArchive_eq (p : Pipeline) (project : String) (data : Bytes) (s : σ) :
    p.ingestArchive project data s =
      match p.prepare project data with
      | .error e => (.error e, s)
      | .ok graph => writeReporting project graph s := by
  rw [ingestArchive, prepare]
  cases ofZip p.registry data with
  | error e => rfl
  | ok files => exact p.ingest_eq project files s

/-- How an ingest of an archive goes, whatever store it is for. -/
structure Phased (p : Pipeline) (project : String) (data : Bytes) (s : σ) : Prop where
  unwritten : ∀ e, p.prepare project data = .error e →
    p.ingestArchive project data s = (.error e, s)
  written : ∀ graph, p.prepare project data = .ok graph →
    p.ingestArchive project data s =
      ((write graph s).1.map fun _ => .ofGraph project graph, (write graph s).2)
  fails_iff : ∀ e, p.prepare project data = .error e ↔
    (∃ fault, readZip data = .error fault ∧ e = .archive fault) ∨
      ∃ entries, readZip data = .ok entries ∧ ∃ before file after,
        entries.filterMap (source? p.registry) = before ++ file :: after ∧
          (∀ f ∈ before, p.registry.passes f) ∧ p.registry.Stops file e
  /-- Sources with a text that is refused, and entries that are no sources, are let pass. -/
  tolerant : ∀ entries, readZip data = .ok entries →
    (∀ file ∈ entries.filterMap (source? p.registry), ∀ e,
      p.registry.reading? file = some (.error e) → ∃ text, e = .parse text) →
    ∃ graph, p.prepare project data = .ok graph

theorem ingestArchive_phased (p : Pipeline) (project : String) (data : Bytes) (s : σ) :
    Phased p project data s := by
  constructor
  case unwritten =>
    intro e h
    rw [ingestArchive_eq, h]
  case written =>
    intro graph h
    rw [ingestArchive_eq, h]
    rfl
  case fails_iff =>
    intro e
    cases hread : readZip data with
    | error fault =>
      rw [prepare_of_error p project hread]
      constructor
      · intro h
        exact Or.inl ⟨fault, rfl, (Except.error.inj h).symm⟩
      · rintro (⟨fault', h, rfl⟩ | ⟨entries, h, -⟩)
        · rw [Except.error.inj h]
        · cases h
    | ok entries =>
      have hsources := (routes_ofEntries p.registry entries).sources
      rw [prepare_of_entries p project hread, build_eq_error_iff, hsources]
      constructor
      · intro h
        exact Or.inr ⟨entries, rfl, h⟩
      · rintro (⟨fault, h, -⟩ | ⟨entries', h, hstops⟩)
        · cases h
        · exact Except.ok.inj h ▸ hstops
  case tolerant =>
    intro entries hread hparse
    rw [exists_prepare_iff]
    refine ⟨entries, hread, ?_⟩
    rintro file hfile e ⟨herror, hother⟩
    obtain ⟨text, rfl⟩ := hparse file hfile e herror
    exact hother text rfl

end Pipeline

end CodeAtlas
