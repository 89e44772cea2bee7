import CodeAtlas.Proofs.Archive.Intake
import CodeAtlas.Proofs.Extraction.Counts
import CodeAtlas.Proofs.Extraction.Failure
import CodeAtlas.Proofs.Pipeline.Build
import CodeAtlas.Proofs.Source.Imports
import Mathlib.Algebra.Ring.Nat

/-!
# Nothing is lost on the way to a graph

From the entries of an archive to the counts of a graph everything is accounted for: an entry by its
role, a source as parsed or refused, a declaration as a module or as a repeat, and an import once for
each declaration of its file that counts.
-/

namespace CodeAtlas

open Archive

def Registry.refuses (registry : Registry) (file : SourceFile) : Bool :=
  match registry.reading? file with
  | some (.error (.parse _)) => true
  | _ => false

namespace Extraction

variable {registry : Registry} {policy : MergePolicy} {project : String} {files : List SourceFile}

theorem parses_or_refuses {file : SourceFile} (hsource : registry.isSource file.path)
    (hpasses : registry.passes file) : (!registry.parses file) = registry.refuses file := by
  rw [← Registry.isSome_reading?] at hsource
  rw [Registry.passes] at hpasses
  rw [Registry.parses, Registry.refuses]
  cases hread : registry.reading? file with
  | none =>
    rw [hread] at hsource
    cases hsource
  | some outcome =>
    rw [hread] at hpasses
    cases outcome with
    | ok parsed => rfl
    | error e =>
      cases e with
      | parse text => rfl
      | _ => exact absurd hpasses Bool.false_ne_true

theorem filesSkipped_eq {x : Extraction} (hx : extract registry policy project files = .ok x)
    (hsources : ∀ file ∈ files, registry.isSource file.path) :
    x.filesSkipped = files.countP registry.refuses := by
  rw [(counts_extract hx).filesSkipped]
  apply List.countP_congr
  intro file hfile
  have hpasses := (exists_extract_iff files).mp ⟨x, hx⟩ file hfile
  rw [parses_or_refuses (hsources file hfile) hpasses]

theorem filesParsed_add_filesSkipped {x : Extraction}
    (hx : extract registry policy project files = .ok x) :
    x.filesParsed + x.filesSkipped = files.length := by
  rw [(counts_extract hx).filesParsed, (counts_extract hx).filesSkipped,
    List.length_eq_countP_add_countP registry.parses]
  simp

theorem length_placeholders {x : Extraction} (hx : extract registry policy project files = .ok x) :
    x.placeholders.toList.length =
      ((importing policy (declarations registry project files)).map (·.imports.length)).sum := by
  rw [(reads_extract hx).placeholders, List.length_flatMap]
  simp [Declaration.placeholders]

theorem nodup_imports {d : Declaration} (hlists : Registry.ListsOnce registry)
    (h : d ∈ declarations registry project files) : d.imports.Nodup := by
  obtain ⟨file, -, hd⟩ := List.mem_flatMap.mp h
  rw [declarationsOf] at hd
  split at hd
  · next parsed hread =>
    obtain ⟨declared, -, rfl⟩ := List.mem_map.mp hd
    exact hlists.of_reading hread
  · cases hd

theorem length_placeholders_of_listsOnce {x : Extraction}
    (hx : extract registry policy project files = .ok x) (hlists : Registry.ListsOnce registry) :
    x.placeholders.toList.length = ((importing policy (declarations registry project files)).map
      (·.imports.eraseDups.length)).sum := by
  refine (length_placeholders hx).trans (congrArg List.sum (List.map_congr_left ?_))
  intro d hd
  rw [Keyed.eraseDups_of_nodup (nodup_imports hlists (mem_of_mem_importing hd))]

end Extraction

namespace Pipeline

open Extraction ProjectFiles Keyed

/-- How a project's files account for the entries of an archive, and a graph for the files. -/
structure Conserves (p : Pipeline) (project : String) (entries : List ArchiveEntry)
    (files : ProjectFiles) (graph : ProjectGraph) : Prop where
  entries_counted : entries.countP isDirectory + files.sources.length + files.manifests.length +
    files.skipped = entries.length
  one_role : ∀ entry ∈ entries, (if isDirectory entry then 1 else 0) +
    (if (source? p.registry entry).isSome then 1 else 0) +
      (if (manifest? p.registry entry).isSome then 1 else 0) +
        (if isSkipped p.registry entry then 1 else 0) = 1
  sources : files.sources = entries.filterMap (source? p.registry)
  manifests : files.manifests = entries.filterMap (manifest? p.registry)
  apart : ∀ file ∈ files.sources, ∀ file' ∈ files.manifests, file.path ≠ file'.path
  handled : ∀ file ∈ files.sources, (p.registry.reading? file).isSome
  sources_counted : graph.filesParsed + graph.filesSkipped = files.sources.length
  refused : graph.filesSkipped = files.sources.countP p.registry.refuses
  declared : graph.nodes.length + graph.duplicates =
    (declarations p.registry project files.sources).length
  placeholders : graph.linker.placeholders =
    ((importing p.policy (declarations p.registry project files.sources)).map
      (·.imports.length)).sum
  /-- Parsers that do what they owe list distinct imports. -/
  distinct : Registry.ListsOnce p.registry → graph.linker.placeholders =
    ((importing p.policy (declarations p.registry project files.sources)).map
      (·.imports.eraseDups.length)).sum

/-- Whatever the first phase is given, it accounts for all of it. -/
theorem build_conserves {p : Pipeline} {project : String} {entries : List ArchiveEntry}
    {graph : ProjectGraph} (h : p.build project (ofEntries p.registry entries) = .ok graph) :
    Conserves p project entries (ofEntries p.registry entries) graph := by
  obtain ⟨x, hx, rfl⟩ := exists_extract_of_build h
  have hroutes := routes_ofEntries p.registry entries
  constructor
  case entries_counted =>
    rw [hroutes.sources, hroutes.manifests, hroutes.skipped]
    exact length_eq_roles p.registry entries
  case one_role => exact fun entry _ => roles_eq_one p.registry entry
  case sources => exact hroutes.sources
  case manifests => exact hroutes.manifests
  case apart =>
    intro file hfile file' hfile' hpath
    exact not_isSource_of_mem_manifests hfile' (hpath ▸ isSource_of_mem_sources hfile)
  case handled =>
    intro file hfile
    rw [Registry.isSome_reading?]
    exact isSource_of_mem_sources hfile
  case sources_counted => exact filesParsed_add_filesSkipped hx
  case refused => exact filesSkipped_eq hx fun file hfile => isSource_of_mem_sources hfile
  case declared =>
    have hdeclared := (counts_extract hx).declared
    rwa [← Array.length_toList] at hdeclared
  case placeholders => exact length_placeholders hx
  case distinct => exact length_placeholders_of_listsOnce hx

/-- The built-in pipeline drops no declaration, and its parser lists the imports of a file once. -/
theorem placeholders_builtIn {grammar : CSharp.Grammar} {project : String} {files : ProjectFiles}
    {graph : ProjectGraph} (h : (builtIn grammar).build project files = .ok graph) :
    graph.linker.placeholders =
      ((declarations (.builtIn grammar) project files.sources).map
        (·.imports.eraseDups.length)).sum := by
  obtain ⟨x, hx, rfl⟩ := exists_extract_of_build h
  exact length_placeholders_of_listsOnce hx (Registry.listsOnce_builtIn grammar)

/-- There is an entry of every kind, and one source is refused. A repeated import counts once, and that
of a dropped declaration not at all. -/
theorem build_conserves_every_kind :
    let p : Pipeline := ⟨[LineNotation.parser "lines" ["txt"]], .keepFirst⟩
    let file (path text : String) : ArchiveEntry := .readable path (Text.encodeUtf8 text)
    let entries : List ArchiveEntry :=
      [.directory, file "a/X.TXT" "use N\nuse N\nclass N X", file "read.me" "class N Z", .unreadable,
        file "b.txt" "use M\nenum N X\nstruct M Y", file "p.csproj" "", file "c.txt" "fail"]
    let graph : ProjectGraph :=
      { nodes := [⟨"p:N.X", "X", "N", .cls, "a/X.TXT"⟩, ⟨"p:M.Y", "Y", "M", .struct, "b.txt"⟩]
        edges := [.importing "p:N.X" "p:N.X", .importing "p:M.Y" "p:M.Y"]
        packages := []
        filesParsed := 2
        filesSkipped := 1
        duplicates := 1
        linker := ⟨2, 2, 0, 0, 0⟩ }
    p.build "p" (ofEntries p.registry entries) = .ok graph ∧ Registry.ListsOnce p.registry ∧
      Conserves p "p" entries (ofEntries p.registry entries) graph := by
  intro p file entries graph
  have hlisted : listedGraph p "p" (ofEntries p.registry entries) = graph := by
    decide +kernel
  have h : p.build "p" (ofEntries p.registry entries) = .ok graph := by
    rw [build_eq_listedGraph "p" (by decide +kernel), hlisted]
  have hlists : Registry.ListsOnce p.registry := by
    intro parser hparser
    obtain rfl := List.mem_singleton.mp hparser
    exact LineNotation.listsOnce_lines "lines" ["txt"]
  exact ⟨h, hlists, build_conserves h⟩

end Pipeline

end CodeAtlas
