import CodeAtlas.Markup.Fault

/-!
# Errors

Every way in which an operation fails, by cause. The wording is in `message`; `causes` lists what a
wrapped fault says on its own, outermost first.
-/

namespace CodeAtlas

inductive StorageFault where
  | noSuchTable (table : String)
  | unreadableNodeKind (text : String)
  | unreadableEdgeKind (text : String)
  | repeatedEdge
  | cannotOpen (path : String)
  | notADatabase
  deriving DecidableEq, Repr

def invalidKindMessage (text : String) : String := "Invalid module kind: " ++ text

def unknownEdgeKind (text : String) : String := "Unknown edge kind: " ++ text

def StorageFault.message : StorageFault → String
  | noSuchTable table => "no such table: " ++ table
  | unreadableNodeKind text =>
    "Conversion error from type Text at index: 3, " ++ invalidKindMessage text
  | unreadableEdgeKind text =>
    "Conversion error from type Text at index: 2, " ++ invalidKindMessage (unknownEdgeKind text)
  | repeatedEdge =>
    "UNIQUE constraint failed: edges.source_id, edges.target_id, edges.kind"
  | cannotOpen path => "unable to open database file: " ++ path
  | notADatabase => "file is not a database"

def StorageFault.causes : StorageFault → List String
  | cannotOpen _ => ["Error code 14: Unable to open the database file"]
  | notADatabase => ["Error code 26: File opened that is not a database file"]
  | unreadableNodeKind text => [invalidKindMessage text]
  | unreadableEdgeKind text => [invalidKindMessage (unknownEdgeKind text)]
  | noSuchTable _ => ["Error code 1: SQL error or missing database"]
  | repeatedEdge => ["Error code 2067: A UNIQUE constraint failed"]

inductive ArchiveFault where
  | noDirectory
  | unreadable
  | badOffset
  | noHeader
  deriving DecidableEq, Repr

def ArchiveFault.message : ArchiveFault → String
  | noDirectory => "invalid Zip archive: Could not find EOCD"
  | unreadable => "i/o error"
  | badOffset => "invalid Zip archive: Invalid CDFH offset in EOCD"
  | noHeader => "invalid Zip archive: No CDFH found"

inductive FileFault where
  | notFound
  | isDirectory
  | notDirectory
  | alreadyExists
  | notUtf8
  deriving DecidableEq, Repr

def FileFault.message : FileFault → String
  | notFound => "No such file or directory (os error 2)"
  | isDirectory => "Is a directory (os error 21)"
  | notDirectory => "Not a directory (os error 20)"
  | alreadyExists => "File exists (os error 17)"
  | notUtf8 => "stream did not contain valid UTF-8"

inductive Error where
  | storage (fault : StorageFault)
  | schemaMissing
  | parse (text : String)
  | adapter (text : String)
  | file (fault : FileFault)
  | archive (fault : ArchiveFault)
  | manifest (fault : Markup.Fault)
  | request
  | summarizer (text : String)
  | invalidKind (text : String)
  deriving DecidableEq, Repr

namespace Error

def message : Error → String
  | storage fault => "Storage error: " ++ fault.message
  | schemaMissing => "Schema not initialized; call ensure_schema first"
  | parse text => "Parse error: " ++ text
  | adapter text => "Adapter error: " ++ text
  | file fault => "IO error: " ++ fault.message
  | archive fault => "Archive error: " ++ fault.message
  | manifest fault => "Manifest error: " ++ fault.message
  | request => "HTTP error: builder error"
  | summarizer text => "Summarizer error: " ++ text
  | invalidKind text => invalidKindMessage text

def causes : Error → List String
  | storage fault => fault.message :: fault.causes
  | file fault => [fault.message]
  | archive fault => [fault.message]
  | request => ["builder error", "relative URL without a base"]
  | _ => []

def isExternal : Error → Bool
  | request | summarizer _ => true
  | _ => false

end Error

end CodeAtlas
