import CodeAtlas.Store.Tables
import CodeAtlas.Text.Search
import CodeAtlas.Text.Utf8

/-!
# Saved stores

The file form of a store in tables: a line of its own at the start, then a line for each row with its
fields between tabs. An empty file is a store without tables.
-/

namespace CodeAtlas.SavedStore

def escapeChar : Char → List Char
  | '\\' => ['\\', '\\']
  | '\t' => ['\\', 't']
  | '\n' => ['\\', 'n']
  | c => [c]

def unescape : List Char → List Char
  | '\\' :: 't' :: rest => '\t' :: unescape rest
  | '\\' :: 'n' :: rest => '\n' :: unescape rest
  | '\\' :: c :: rest => c :: unescape rest
  | c :: rest => c :: unescape rest
  | [] => []

def writeLine (fields : List String) : List Char :=
  List.intercalate ['\t'] (fields.map fun field => field.toList.flatMap escapeChar) ++ ['\n']

def readLine (line : List Char) : List String :=
  (Text.splitAt '\t' line).map fun field => String.ofList (unescape field)

def firstLine : List Char := "code atlas store".toList

def nodeFields (r : NodeRow) : List String :=
  ["module", r.id, r.name, r.nspace, r.kind, r.filePath]

def edgeFields (r : EdgeRow) : List String := ["edge", r.source, r.target, r.kind]

def packageFields (p : Package) : List String :=
  ["package", p.name, p.version, p.risk] ++ p.license.toList

def write (s : TableStore) : List UInt8 :=
  match s.tables with
  | none => []
  | some tables =>
    let lines := tables.modules.select.map nodeFields ++ tables.edges.select.map edgeFields ++
      tables.packages.select.map packageFields
    Text.encodeUtf8 (String.ofList (firstLine ++ '\n' :: lines.flatMap writeLine))

def addRow (tables : Tables) : List String → Option Tables
  | ["module", id, name, nspace, kind, filePath] =>
    some { tables with modules := tables.modules.insert { id, name, nspace, kind, filePath } }
  | ["edge", source, target, kind] =>
    some { tables with edges := tables.edges.insert { source, target, kind } }
  | ["package", name, version, risk] =>
    some { tables with packages := tables.packages.insert { name, version, risk, license := none } }
  | ["package", name, version, risk, license] =>
    some { tables with
      packages := tables.packages.insert { name, version, risk, license := some license } }
  | _ => none

def read? (bytes : List UInt8) : Option TableStore :=
  if bytes.isEmpty then some .fresh
  else do
    let text ← Text.decodeUtf8? bytes
    match Text.splitAt '\n' text.toList with
    | first :: lines =>
      if first = firstLine then
        let rows := (lines.filter (!·.isEmpty)).map readLine
        (rows.foldlM addRow Tables.empty).map fun tables => { tables := some tables }
      else none
    | [] => none

end CodeAtlas.SavedStore
