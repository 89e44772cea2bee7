import CodeAtlas.Archive.Zip
import CodeAtlas.Manifest
import CodeAtlas.Source.File
import CodeAtlas.Source.Registry

/-!
# Files of a project by role

Each file is a source, if a parser takes its path, else a manifest, if its name is one's, or else it is
skipped. Directories are not counted; what cannot be read is skipped.
-/

namespace CodeAtlas

structure ProjectFiles where
  sources : List SourceFile
  manifests : List SourceFile
  skipped : Nat
  deriving DecidableEq, Repr, Inhabited

namespace ProjectFiles

open Archive

def empty : ProjectFiles := { sources := [], manifests := [], skipped := 0 }

def add (registry : Registry) (files : ProjectFiles) (file : SourceFile) : ProjectFiles :=
  if registry.isSource file.path then { files with sources := files.sources ++ [file] }
  else if Manifest.isManifest file.path then
    { files with manifests := files.manifests ++ [file] }
  else { files with skipped := files.skipped + 1 }

def classify (registry : Registry) (files : List SourceFile) : ProjectFiles :=
  files.foldl (add registry) .empty

def addEntry (registry : Registry) (files : ProjectFiles) : ArchiveEntry → ProjectFiles
  | .directory => files
  | .unreadable => { files with skipped := files.skipped + 1 }
  | .readable path bytes => files.add registry { path, text := Text.decodeUtf8 bytes }

def ofEntries (registry : Registry) (entries : List ArchiveEntry) : ProjectFiles :=
  entries.foldl (addEntry registry) .empty

def ofZip (registry : Registry) (data : Bytes) : Except Error ProjectFiles :=
  match readZip data with
  | .ok entries => .ok (ofEntries registry entries)
  | .error fault => .error (.archive fault)

end ProjectFiles

end CodeAtlas
