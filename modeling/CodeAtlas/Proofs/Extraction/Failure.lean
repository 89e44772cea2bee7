import CodeAtlas.Proofs.Extraction.Counts
import CodeAtlas.Source.Lines

/-!
# How an extraction fails

An extraction fails just as the first file whose parser fails in another way than by the text of the
file. The files after it are not read, and what the files before it say does not matter.
-/

namespace CodeAtlas

/-- A failure of the parser of a file that is no mere refusal of its text. -/
def Registry.Stops (registry : Registry) (file : SourceFile) (e : Error) : Prop :=
  registry.reading? file = some (.error e) ∧ ∀ text, e ≠ .parse text

theorem Registry.passes_iff (registry : Registry) (file : SourceFile) :
    registry.passes file ↔ ∀ e, ¬ registry.Stops file e := by
  simp only [passes, Stops]
  cases registry.reading? file with
  | none => simp
  | some outcome =>
    cases outcome with
    | ok parsed => simp
    | error e => cases e <;> simp

/-- The parser of C# fails for good just if its language cannot be set. -/
theorem Registry.stops_builtIn_iff (grammar : CSharp.Grammar) (file : SourceFile) (e : Error) :
    Registry.Stops (.builtIn grammar) file e ↔ (Registry.builtIn grammar).isSource file.path ∧
      ∃ fault, grammar.languageFault = some fault ∧
        e = .adapter ("Failed to set language: " ++ fault) := by
  rw [Registry.Stops, Registry.reading?, Registry.isSource]
  cases hparser : (Registry.builtIn grammar).parserFor? file.path with
  | none => simp
  | some parser =>
    obtain rfl := List.mem_singleton.mp (List.mem_of_find?_eq_some hparser)
    simp only [SourceParser.csharp, CSharp.parse, Option.map_some, Option.isSome_some, true_and]
    cases grammar.languageFault with
    | none =>
      cases grammar.tree? file.text with
      | none => simpa using fun h : _ = e => ⟨_, h.symm⟩
      | some root => simp
    | some fault => simp +contextual [eq_comm]

theorem Registry.not_stops_standard (file : SourceFile) (e : Error) :
    ¬ Registry.Stops .standard file e := by
  intro hstops
  obtain ⟨-, fault, hfault, -⟩ := (Registry.stops_builtIn_iff _ file e).mp hstops
  cases hfault

theorem Registry.Stops.not_passes {registry : Registry} {file : SourceFile} {e : Error}
    (h : registry.Stops file e) : ¬ registry.passes file :=
  fun hpasses => (registry.passes_iff file).mp hpasses e h

def Registry.StopsFirst (registry : Registry) (files : List SourceFile) (e : Error) : Prop :=
  ∃ before file after, files = before ++ file :: after ∧
    (∀ f ∈ before, registry.passes f) ∧ registry.Stops file e

theorem Registry.not_stopsFirst_nil (registry : Registry) (e : Error) :
    ¬ registry.StopsFirst [] e := by
  rintro ⟨before, file, after, h, -⟩
  simp at h

theorem Registry.stopsFirst_cons_iff (registry : Registry) (first : SourceFile)
    (files : List SourceFile) (e : Error) : registry.StopsFirst (first :: files) e ↔
      registry.Stops first e ∨ registry.passes first ∧ registry.StopsFirst files e := by
  constructor
  · rintro ⟨before, file, after, hsplit, hbefore, hstops⟩
    cases before with
    | nil =>
      obtain ⟨rfl, -⟩ := List.cons.inj hsplit
      exact Or.inl hstops
    | cons f before =>
      obtain ⟨rfl, rfl⟩ := List.cons.inj hsplit
      obtain ⟨hfirst, hbefore⟩ := List.forall_mem_cons.mp hbefore
      exact Or.inr ⟨hfirst, before, file, after, rfl, hbefore, hstops⟩
  · rintro (hstops | ⟨hfirst, before, file, after, rfl, hbefore, hstops⟩)
    · exact ⟨[], first, files, rfl, fun _ hf => absurd hf List.not_mem_nil, hstops⟩
    · exact ⟨first :: before, file, after, rfl, List.forall_mem_cons.mpr ⟨hfirst, hbefore⟩, hstops⟩

namespace Extraction

variable {registry : Registry} {policy : MergePolicy} {project : String}

theorem addFile_eq_error_iff (x : Extraction) (file : SourceFile) (e : Error) :
    x.addFile registry policy project file = .error e ↔ registry.Stops file e := by
  rw [addFile_eq, Registry.Stops]
  cases registry.reading? file with
  | none => simp
  | some outcome =>
    cases outcome with
    | ok parsed => simp
    | error e' => cases e' <;> simp <;> grind

theorem addFiles_eq_error_iff (x : Extraction) (files : List SourceFile) (e : Error) :
    files.foldlM (Extraction.addFile registry policy project) x = .error e ↔
      registry.StopsFirst files e := by
  induction files generalizing x with
  | nil =>
    constructor
    · intro h
      cases h
    · intro h
      exact absurd h (registry.not_stopsFirst_nil e)
  | cons first files ih =>
    rw [List.foldlM_cons, Registry.stopsFirst_cons_iff]
    cases hstep : x.addFile registry policy project first with
    | error e' =>
      have hfirst : registry.Stops first e' := (addFile_eq_error_iff x first e').mp hstep
      constructor
      · intro h
        exact Or.inl (Except.error.inj h ▸ hfirst)
      · rintro (hstops | ⟨hpasses, -⟩)
        · have hsame := hfirst.1.symm.trans hstops.1
          exact congrArg Except.error (Except.error.inj (Option.some.inj hsame))
        · exact absurd hpasses hfirst.not_passes
    | ok y =>
      have hfirst : registry.passes first := (exists_addFile_iff x first).mp ⟨y, hstep⟩
      have hrun := ih y
      constructor
      · intro h
        exact Or.inr ⟨hfirst, hrun.mp h⟩
      · rintro (hstops | ⟨-, hfiles⟩)
        · exact absurd hfirst hstops.not_passes
        · exact hrun.mpr hfiles

theorem extract_eq_error_iff (files : List SourceFile) (e : Error) :
    extract registry policy project files = .error e ↔ registry.StopsFirst files e :=
  addFiles_eq_error_iff .empty files e

example :
    extract [LineNotation.parser "lines" ["txt"]] .keepFirst "p"
      [⟨"a.txt", "fail"⟩, ⟨"b.txt", "module N X"⟩, ⟨"c.txt", "type N X\nfail"⟩] =
        .error (.invalidKind "module") := by
  cbv

end Extraction

end CodeAtlas
