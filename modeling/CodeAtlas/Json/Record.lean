import CodeAtlas.Edge
import CodeAtlas.Json.Value
import CodeAtlas.Store.Detail

/-!
# Records in JSON

Reading and writing the records of the graph. A record is an object, or an array of its fields in
order. The fields that are present are checked in the order of the object, then the first missing one
is reported in the order of the record. Unknown keys are passed over.
-/

namespace CodeAtlas.Json

inductive RecordFault where
  | missingField (name : String)
  | duplicateField (name : String)
  | invalidType (found expected : String)
  | invalidValue (found expected : String)
  | invalidLength (found : Nat) (expected : String)
  | unknownVariant (found : String) (expected : List String)
  deriving DecidableEq, Repr

private def inTicks (text : String) : String := "`" ++ text ++ "`"

private def alternatives : List String → String
  | [] => "there are no variants"
  | [a] => "expected " ++ inTicks a
  | [a, b] => "expected " ++ inTicks a ++ " or " ++ inTicks b
  | labels => "expected one of " ++ String.intercalate ", " (labels.map inTicks)

def RecordFault.message : RecordFault → String
  | missingField name => "missing field " ++ inTicks name
  | duplicateField name => "duplicate field " ++ inTicks name
  | invalidType found expected => "invalid type: " ++ found ++ ", expected " ++ expected
  | invalidValue found expected => "invalid value: " ++ found ++ ", expected " ++ expected
  | invalidLength found expected =>
    "invalid length " ++ toString found ++ ", expected " ++ expected
  | unknownVariant found expected =>
    "unknown variant " ++ inTicks found ++ ", " ++ alternatives expected

abbrev Decoder (α : Type) := Json → Except RecordFault α

def text : Decoder String
  | .string s => .ok s
  | value => .error (.invalidType value.describe "a string")

def sequence {α : Type} (item : Decoder α) : Decoder (List α)
  | .array items => items.mapM item
  | value => .error (.invalidType value.describe "a sequence")

def nullable {α : Type} (decode : Decoder α) : Decoder (Option α)
  | .null => .ok none
  | value => (decode value).map some

def natUpTo (bound : Nat) (expected : String) : Decoder Nat
  | .integer (.ofNat n) =>
    if n ≤ bound then .ok n
    else .error (.invalidValue (describe (.integer n)) expected)
  | .integer n => .error (.invalidValue (describe (.integer n)) expected)
  | value => .error (.invalidType value.describe expected)

/-- A variant is written as its label, or as an object from the label to null. -/
def variant {α : Type} (all : List α) (label : α → String) : Decoder α
  | .string found => named found
  | .object [(found, payload)] => do
    let v ← named found
    match payload with
    | .null => .ok v
    | value => .error (.invalidType value.describe "unit")
  | .object _ => .error (.invalidValue "map" "map with a single key")
  | value => .error (.invalidType value.describe "string or map")
where
  named (found : String) : Except RecordFault α :=
    match all.find? (label · == found) with
    | some v => .ok v
    | none => .error (.unknownVariant found (all.map label))

/-- A field with the check of its value, and whether it may be left out. -/
structure Field where
  name : String
  check : Decoder Unit
  isOptional : Bool

def required {α : Type} (name : String) (decode : Decoder α) : Field :=
  ⟨name, fun value => (decode value).map fun _ => (), false⟩

def omissible {α : Type} (name : String) (decode : Decoder α) : Field :=
  ⟨name, fun value => (decode value).map fun _ => (), true⟩

def checkEntries (fields : List Field) (seen : List String) :
    List (String × Json) → Except RecordFault Unit
  | [] => .ok ()
  | (key, value) :: rest =>
    match fields.find? (·.name == key) with
    | none => checkEntries fields seen rest
    | some field => do
      if key ∈ seen then .error (.duplicateField key)
      field.check value
      checkEntries fields (key :: seen) rest

def entriesOf (recordName : String) (fields : List Field) : Decoder (List (String × Json))
  | .object entries => do
    checkEntries fields [] entries
    .ok entries
  | .array items => do
    let entries := (fields.map (·.name)).zip items
    checkEntries fields [] entries
    if (fields.drop items.length).any fun field => !field.isOptional then
      let expected :=
        "struct " ++ recordName ++ " with " ++ toString fields.length ++ " elements"
      .error (.invalidLength items.length expected)
    if fields.length < items.length then
      .error (.invalidLength items.length "fewer elements in array")
    .ok entries
  | value => .error (.invalidType value.describe ("struct " ++ recordName))

def take {α : Type} (entries : List (String × Json)) (name : String) (decode : Decoder α) :
    Except RecordFault α :=
  match entries.lookup name with
  | some value => decode value
  | none => .error (.missingField name)

def takeOptional {α : Type} (entries : List (String × Json)) (name : String)
    (decode : Decoder α) : Except RecordFault (Option α) :=
  match entries.lookup name with
  | some value => nullable decode value
  | none => .ok none

def moduleKind : Decoder ModuleKind := variant ModuleKind.all ModuleKind.label

def edgeKind : Decoder EdgeKind := variant EdgeKind.all EdgeKind.label

def decodeNode : Decoder ModuleNode := fun value => do
  let entries ← entriesOf "ModuleNode" [
    required "id" text, required "name" text, required "namespace" text,
    required "kind" moduleKind, required "filePath" text] value
  let id ← take entries "id" text
  let name ← take entries "name" text
  let nspace ← take entries "namespace" text
  let kind ← take entries "kind" moduleKind
  let filePath ← take entries "filePath" text
  .ok { id, name, nspace, kind, filePath }

def decodeEdge : Decoder Edge := fun value => do
  let entries ← entriesOf "Edge" [
    required "source" text, required "target" text, required "type" edgeKind] value
  let source ← take entries "source" text
  let target ← take entries "target" text
  let kind ← take entries "type" edgeKind
  .ok { source, target, kind }

def decodePackage : Decoder Package := fun value => do
  let entries ← entriesOf "PackageRecord" [
    required "package" text, required "version" text, required "risk" text,
    omissible "license" (nullable text)] value
  let name ← take entries "package" text
  let version ← take entries "version" text
  let risk ← take entries "risk" text
  let license ← takeOptional entries "license" text
  .ok { name, version, risk, license }

def decodeRelation : Decoder Relation := fun value => do
  let entries ← entriesOf "Relation" [
    required "nodeId" text, required "sourceName" text, required "targetName" text] value
  let nodeId ← take entries "nodeId" text
  let sourceName ← take entries "sourceName" text
  let targetName ← take entries "targetName" text
  .ok { nodeId, sourceName, targetName }

def decodeDetail : Decoder ModuleDetail := fun value => do
  let entries ← entriesOf "ModuleDetail" [
    required "id" text, required "name" text, required "namespace" text,
    required "kind" moduleKind, required "filePath" text, required "imports" (sequence text),
    required "outgoing" (sequence decodeRelation), required "incoming" (sequence decodeRelation),
    required "packageRisks" (sequence decodePackage)] value
  let id ← take entries "id" text
  let name ← take entries "name" text
  let nspace ← take entries "namespace" text
  let kind ← take entries "kind" moduleKind
  let filePath ← take entries "filePath" text
  let imports ← take entries "imports" (sequence text)
  let outgoing ← take entries "outgoing" (sequence decodeRelation)
  let incoming ← take entries "incoming" (sequence decodeRelation)
  let packageRisks ← take entries "packageRisks" (sequence decodePackage)
  .ok { id, name, nspace, kind, filePath, imports, outgoing, incoming, packageRisks }

def ofNode (n : ModuleNode) : Json :=
  .object [
    ("id", .string n.id), ("name", .string n.name), ("namespace", .string n.nspace),
    ("kind", .string n.kind.label), ("filePath", .string n.filePath)]

def ofSummary (n : NodeSummary) : Json :=
  .object [
    ("id", .string n.id), ("name", .string n.name), ("namespace", .string n.nspace),
    ("kind", .string n.kind.label)]

def ofEdge (e : Edge) : Json :=
  .object [
    ("source", .string e.source), ("target", .string e.target), ("type", .string e.kind.label)]

def ofPackage (p : Package) : Json :=
  .object (
    [("package", .string p.name), ("version", .string p.version), ("risk", .string p.risk)] ++
    match p.license with
    | some license => [("license", .string license)]
    | none => [])

def ofRelation (r : Relation) : Json :=
  .object [
    ("nodeId", .string r.nodeId), ("sourceName", .string r.sourceName),
    ("targetName", .string r.targetName)]

def ofDetail (d : ModuleDetail) : Json :=
  .object [
    ("id", .string d.id), ("name", .string d.name), ("namespace", .string d.nspace),
    ("kind", .string d.kind.label), ("filePath", .string d.filePath),
    ("imports", .strings d.imports), ("outgoing", .array (d.outgoing.map ofRelation)),
    ("incoming", .array (d.incoming.map ofRelation)),
    ("packageRisks", .array (d.packageRisks.map ofPackage))]

def ofWriteSummary (s : WriteSummary) : Json :=
  .object [
    ("nodes", .nat s.nodes), ("edges", .nat s.edges), ("edges_skipped", .nat s.edgesSkipped),
    ("packages", .nat s.packages)]

def ofStats (s : StoreStats) : Json :=
  .object [("modules", .nat s.modules), ("edges", .nat s.edges), ("packages", .nat s.packages)]

end CodeAtlas.Json
