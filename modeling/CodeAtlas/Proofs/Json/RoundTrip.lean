import CodeAtlas.Proofs.Json.Record

/-!
# Records of the graph are read as they were written

Each record of the graph is read and written slot by slot, so its format is lawful. A detail holds
relations and packages, and its format is built from theirs.
-/

namespace CodeAtlas.Json

theorem entriesOf_object_eq_ok_iff (recordName : String) (fields : List Field)
    (es found : List (String × Json)) :
    entriesOf recordName fields (.object es) = .ok found ↔
      checkEntries fields [] es = .ok () ∧ es = found := by
  rw [entriesOf, bind_eq_ok_iff]
  constructor
  · rintro ⟨_, hcheck, h⟩
    exact ⟨hcheck, Except.ok.inj h⟩
  · rintro ⟨hcheck, rfl⟩
    exact ⟨(), hcheck, rfl⟩

section Slots

variable {α ρ : Type} (name : String) (f : Format α) (es : List (String × Json)) (r : ρ)

theorem required_reads_iff (get : ρ → α) :
    (Slot.required name f get).Reads r (es.lookup (Slot.required name f get).name) ↔
      take es name f.decode = .ok (get r) := by
  change (∃ value, es.lookup name = some value ∧ f.decode value = .ok (get r)) ↔ _
  rw [take]
  cases es.lookup name <;> simp

theorem optional_reads_iff (get : ρ → Option α) :
    (Slot.optional name f get).Reads r (es.lookup (Slot.optional name f get).name) ↔
      takeOptional es name f.decode = .ok (get r) := by
  change Slot.Nullable f (get r) (es.lookup name) ↔ _
  rw [takeOptional]
  cases es.lookup name with
  | none =>
    constructor
    · intro h
      generalize get r = a at h
      cases h
      rfl
    · intro h
      rw [← Except.ok.inj h]
      exact .absent
  | some value => exact (Slot.nullable_eq_ok_iff f value (get r)).symm

end Slots

theorem moduleKind_label_injective : Function.Injective ModuleKind.label := by
  intro a b h
  cases a <;> cases b <;> first | rfl | exact absurd h (by decide)

namespace Format

def moduleKind : Format ModuleKind := variant ModuleKind.all ModuleKind.label

theorem moduleKind_lawful : moduleKind.Lawful := by
  refine variant_lawful (fun kind => ?_) moduleKind_label_injective
  cases kind <;> decide

def edgeKind : Format EdgeKind := variant EdgeKind.all EdgeKind.label

theorem edgeKind_lawful : edgeKind.Lawful :=
  variant_lawful (fun _ => List.mem_singleton.mpr rfl) fun _ _ _ => rfl

def nodeSlots : List (Slot ModuleNode) := [
  .required "id" text (·.id), .required "name" text (·.name),
  .required "namespace" text (·.nspace), .required "kind" moduleKind (·.kind),
  .required "filePath" text (·.filePath)]

theorem node_bySlots : BySlots nodeSlots decodeNode ofNode where
  nodup := by decide
  lawful := by simp [nodeSlots, Slot.required_lawful, text_lawful, moduleKind_lawful]
  encode_eq _ := rfl
  decode_eq_ok_iff es r := by
    simp only [decodeNode, bind_eq_ok_iff, entriesOf_object_eq_ok_iff, nodeSlots,
      List.forall_mem_cons, required_reads_iff]
    constructor
    · rintro ⟨_, ⟨hcheck, rfl⟩, _, hid, _, hname, _, hnspace, _, hkind, _, hpath, ⟨⟩⟩
      exact ⟨hcheck, hid, hname, hnspace, hkind, hpath, List.forall_mem_nil _⟩
    · rintro ⟨hcheck, hid, hname, hnspace, hkind, hpath, -⟩
      exact ⟨es, ⟨hcheck, rfl⟩, _, hid, _, hname, _, hnspace, _, hkind, _, hpath, rfl⟩

def node : Format ModuleNode := record nodeSlots decodeNode ofNode

def edgeSlots : List (Slot Edge) := [
  .required "source" text (·.source), .required "target" text (·.target),
  .required "type" edgeKind (·.kind)]

theorem edge_bySlots : BySlots edgeSlots decodeEdge ofEdge where
  nodup := by decide
  lawful := by simp [edgeSlots, Slot.required_lawful, text_lawful, edgeKind_lawful]
  encode_eq _ := rfl
  decode_eq_ok_iff es r := by
    simp only [decodeEdge, bind_eq_ok_iff, entriesOf_object_eq_ok_iff, edgeSlots,
      List.forall_mem_cons, required_reads_iff]
    constructor
    · rintro ⟨_, ⟨hcheck, rfl⟩, _, hsource, _, htarget, _, hkind, ⟨⟩⟩
      exact ⟨hcheck, hsource, htarget, hkind, List.forall_mem_nil _⟩
    · rintro ⟨hcheck, hsource, htarget, hkind, -⟩
      exact ⟨es, ⟨hcheck, rfl⟩, _, hsource, _, htarget, _, hkind, rfl⟩

def edge : Format Edge := record edgeSlots decodeEdge ofEdge

def packageSlots : List (Slot Package) := [
  .required "package" text (·.name), .required "version" text (·.version),
  .required "risk" text (·.risk), .optional "license" text (·.license)]

theorem package_bySlots : BySlots packageSlots decodePackage ofPackage where
  nodup := by decide
  lawful := by
    have hnull : ∀ s, text.decode .null ≠ .ok s := by
      rintro s ⟨⟩
    simp [packageSlots, Slot.required_lawful, Slot.optional_lawful, text_lawful, hnull]
  encode_eq r := by
    obtain ⟨name, version, risk, license⟩ := r
    cases license <;> rfl
  decode_eq_ok_iff es r := by
    simp only [decodePackage, bind_eq_ok_iff, entriesOf_object_eq_ok_iff, packageSlots,
      List.forall_mem_cons, required_reads_iff, optional_reads_iff]
    constructor
    · rintro ⟨_, ⟨hcheck, rfl⟩, _, hname, _, hversion, _, hrisk, _, hlicense, ⟨⟩⟩
      exact ⟨hcheck, hname, hversion, hrisk, hlicense, List.forall_mem_nil _⟩
    · rintro ⟨hcheck, hname, hversion, hrisk, hlicense, -⟩
      exact ⟨es, ⟨hcheck, rfl⟩, _, hname, _, hversion, _, hrisk, _, hlicense, rfl⟩

def package : Format Package := record packageSlots decodePackage ofPackage

def relationSlots : List (Slot Relation) := [
  .required "nodeId" text (·.nodeId), .required "sourceName" text (·.sourceName),
  .required "targetName" text (·.targetName)]

theorem relation_bySlots : BySlots relationSlots decodeRelation ofRelation where
  nodup := by decide
  lawful := by simp [relationSlots, Slot.required_lawful, text_lawful]
  encode_eq _ := rfl
  decode_eq_ok_iff es r := by
    simp only [decodeRelation, bind_eq_ok_iff, entriesOf_object_eq_ok_iff, relationSlots,
      List.forall_mem_cons, required_reads_iff]
    constructor
    · rintro ⟨_, ⟨hcheck, rfl⟩, _, hid, _, hsource, _, htarget, ⟨⟩⟩
      exact ⟨hcheck, hid, hsource, htarget, List.forall_mem_nil _⟩
    · rintro ⟨hcheck, hid, hsource, htarget, -⟩
      exact ⟨es, ⟨hcheck, rfl⟩, _, hid, _, hsource, _, htarget, rfl⟩

def relation : Format Relation := record relationSlots decodeRelation ofRelation

def detailSlots : List (Slot ModuleDetail) := [
  .required "id" text (·.id), .required "name" text (·.name),
  .required "namespace" text (·.nspace), .required "kind" moduleKind (·.kind),
  .required "filePath" text (·.filePath), .required "imports" text.sequence (·.imports),
  .required "outgoing" relation.sequence (·.outgoing),
  .required "incoming" relation.sequence (·.incoming),
  .required "packageRisks" package.sequence (·.packageRisks)]

theorem detail_bySlots : BySlots detailSlots decodeDetail ofDetail where
  nodup := by decide
  lawful := by
    have hrelation : relation.sequence.Lawful := sequence_lawful (record_lawful relation_bySlots)
    have hpackage : package.sequence.Lawful := sequence_lawful (record_lawful package_bySlots)
    simp [detailSlots, Slot.required_lawful, text_lawful, moduleKind_lawful,
      sequence_lawful text_lawful, hrelation, hpackage]
  encode_eq _ := rfl
  decode_eq_ok_iff es r := by
    simp only [decodeDetail, bind_eq_ok_iff, entriesOf_object_eq_ok_iff, detailSlots,
      List.forall_mem_cons, required_reads_iff]
    constructor
    · rintro ⟨_, ⟨hcheck, rfl⟩, _, hid, _, hname, _, hnspace, _, hkind, _, hpath, _, himports,
        _, hout, _, hin, _, hrisks, ⟨⟩⟩
      exact ⟨hcheck, hid, hname, hnspace, hkind, hpath, himports, hout, hin, hrisks,
        List.forall_mem_nil _⟩
    · rintro ⟨hcheck, hid, hname, hnspace, hkind, hpath, himports, hout, hin, hrisks, -⟩
      exact ⟨es, ⟨hcheck, rfl⟩, _, hid, _, hname, _, hnspace, _, hkind, _, hpath, _, himports,
        _, hout, _, hin, _, hrisks, rfl⟩

def detail : Format ModuleDetail := record detailSlots decodeDetail ofDetail

theorem graph_lawful :
    node.Lawful ∧ edge.Lawful ∧ package.Lawful ∧ relation.Lawful ∧ detail.Lawful :=
  ⟨record_lawful node_bySlots, record_lawful edge_bySlots, record_lawful package_bySlots,
    record_lawful relation_bySlots, record_lawful detail_bySlots⟩

example :
    (decodePackage (.object [("note", .bool true), ("license", .null), ("risk", .string "High"),
      ("package", .string "NUnit"), ("version", .string "3.0")])).map ofPackage =
    .ok (.object [("package", .string "NUnit"), ("version", .string "3.0"),
      ("risk", .string "High")]) := by
  cbv

end Format

end CodeAtlas.Json
