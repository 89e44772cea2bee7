import CodeAtlas.Archive.ProjectFiles

/-!
# Where the entries of an archive go

An entry is a directory, a source, a manifest or skipped, and only one of these. Sources and manifests
come in the order of the archive, and every entry is accounted for.
-/

namespace CodeAtlas

namespace ProjectFiles

open Archive

variable {registry : Registry}

def source? (registry : Registry) : ArchiveEntry → Option SourceFile
  | .readable path bytes =>
    if registry.isSource path then some { path, text := Text.decodeUtf8 bytes } else none
  | .directory | .unreadable => none

/-- The manifest that an entry holds. What a parser takes is no manifest, whatever its name. -/
def manifest? (registry : Registry) : ArchiveEntry → Option SourceFile
  | .readable path bytes =>
    if ¬ registry.isSource path ∧ Manifest.isManifest path then
      some { path, text := Text.decodeUtf8 bytes }
    else none
  | .directory | .unreadable => none

def isSkipped (registry : Registry) : ArchiveEntry → Bool
  | .readable path _ => !registry.isSource path && !Manifest.isManifest path
  | .directory => false
  | .unreadable => true

def isDirectory : ArchiveEntry → Bool
  | .directory => true
  | .readable _ _ | .unreadable => false

structure Routes (registry : Registry) (entries : List ArchiveEntry) (files : ProjectFiles) :
    Prop where
  sources : files.sources = entries.filterMap (source? registry)
  manifests : files.manifests = entries.filterMap (manifest? registry)
  skipped : files.skipped = entries.countP (isSkipped registry)

namespace Routes

variable {entries : List ArchiveEntry} {files : ProjectFiles}

theorem empty (registry : Registry) : Routes registry [] .empty := ⟨rfl, rfl, rfl⟩

theorem addEntry (h : Routes registry entries files) (entry : ArchiveEntry) :
    Routes registry (entries ++ [entry]) (files.addEntry registry entry) := by
  obtain ⟨hsources, hmanifests, hskipped⟩ := h
  cases entry with
  | directory =>
    constructor <;>
      simp [ProjectFiles.addEntry, source?, manifest?, isSkipped, hsources, hmanifests, hskipped]
  | unreadable =>
    constructor <;>
      simp [ProjectFiles.addEntry, source?, manifest?, isSkipped, hsources, hmanifests, hskipped]
  | readable path bytes =>
    rw [ProjectFiles.addEntry, ProjectFiles.add]
    by_cases hsource : registry.isSource path
    · rw [if_pos hsource]
      constructor <;>
        simp [source?, manifest?, isSkipped, hsource, hsources, hmanifests, hskipped]
    · rw [if_neg hsource]
      by_cases hmanifest : Manifest.isManifest path
      · rw [if_pos hmanifest]
        constructor <;>
          simp [source?, manifest?, isSkipped, hsource, hmanifest, hsources, hmanifests, hskipped]
      · rw [if_neg hmanifest]
        constructor <;>
          simp [source?, manifest?, isSkipped, hsource, hmanifest, hsources, hmanifests, hskipped]

theorem addEntries (h : Routes registry entries files) (more : List ArchiveEntry) :
    Routes registry (entries ++ more) (more.foldl (ProjectFiles.addEntry registry) files) := by
  induction more generalizing entries files with
  | nil => simpa using h
  | cons entry more ih => simpa using ih (h.addEntry entry)

end Routes

theorem routes_ofEntries (registry : Registry) (entries : List ArchiveEntry) :
    Routes registry entries (ofEntries registry entries) :=
  (Routes.empty registry).addEntries entries

theorem isSource_of_source? {entry : ArchiveEntry} {file : SourceFile}
    (h : source? registry entry = some file) : registry.isSource file.path := by
  cases entry with
  | directory => cases h
  | unreadable => cases h
  | readable path bytes =>
    rw [source?] at h
    by_cases hsource : registry.isSource path
    · rw [if_pos hsource] at h
      cases h
      exact hsource
    · rw [if_neg hsource] at h
      cases h

theorem not_isSource_of_manifest? {entry : ArchiveEntry} {file : SourceFile}
    (h : manifest? registry entry = some file) : ¬ registry.isSource file.path := by
  cases entry with
  | directory => cases h
  | unreadable => cases h
  | readable path bytes =>
    rw [manifest?] at h
    by_cases hmanifest : ¬ registry.isSource path ∧ Manifest.isManifest path
    · rw [if_pos hmanifest] at h
      cases h
      exact hmanifest.1
    · rw [if_neg hmanifest] at h
      cases h

theorem isSource_of_mem_sources {entries : List ArchiveEntry} {file : SourceFile}
    (h : file ∈ (ofEntries registry entries).sources) : registry.isSource file.path := by
  rw [(routes_ofEntries registry entries).sources, List.mem_filterMap] at h
  obtain ⟨entry, -, hentry⟩ := h
  exact isSource_of_source? hentry

theorem not_isSource_of_mem_manifests {entries : List ArchiveEntry} {file : SourceFile}
    (h : file ∈ (ofEntries registry entries).manifests) : ¬ registry.isSource file.path := by
  rw [(routes_ofEntries registry entries).manifests, List.mem_filterMap] at h
  obtain ⟨entry, -, hentry⟩ := h
  exact not_isSource_of_manifest? hentry

/-- An entry has one role and no second one. -/
theorem roles_eq_one (registry : Registry) (entry : ArchiveEntry) :
    (if isDirectory entry then 1 else 0) + (if (source? registry entry).isSome then 1 else 0) +
      (if (manifest? registry entry).isSome then 1 else 0) +
        (if isSkipped registry entry then 1 else 0) = 1 := by
  cases entry with
  | directory => rfl
  | unreadable => rfl
  | readable path bytes =>
    by_cases hsource : registry.isSource path
    · simp [isDirectory, source?, manifest?, isSkipped, hsource]
    · by_cases hmanifest : Manifest.isManifest path
      · simp [isDirectory, source?, manifest?, isSkipped, hsource, hmanifest]
      · simp [isDirectory, source?, manifest?, isSkipped, hsource, hmanifest]

theorem length_eq_roles (registry : Registry) (entries : List ArchiveEntry) :
    entries.countP isDirectory + (entries.filterMap (source? registry)).length +
      (entries.filterMap (manifest? registry)).length + entries.countP (isSkipped registry) =
        entries.length := by
  rw [List.length_filterMap_eq_countP, List.length_filterMap_eq_countP]
  induction entries with
  | nil => rfl
  | cons entry entries ih =>
    have hentry := roles_eq_one registry entry
    simp only [List.countP_cons, List.length_cons]
    omega

end ProjectFiles

end CodeAtlas
