import CodeAtlas.Proofs.Json.Slot
import CodeAtlas.Proofs.Keyed.Merge

/-!
# Records by their slots

A record that is read and written slot by slot has a lawful format if its slots are lawful. A key that
names a slot stands at most once in what is read, so a lookup there finds the only entry of that key.
-/

namespace CodeAtlas.Json

open Keyed

section Keys

def known (names : List String) (es : List (String × Json)) : List (String × Json) :=
  es.filter (·.1 ∈ names)

def knownKeys (names : List String) (es : List (String × Json)) : List String :=
  (known names es).map Prod.fst

variable {names : List String} {key : String} {value : Json} {es : List (String × Json)}

theorem knownKeys_cons_of_mem (h : key ∈ names) :
    knownKeys names ((key, value) :: es) = key :: knownKeys names es := by
  rw [knownKeys, known, List.filter_cons_of_pos (by simpa using h)]
  rfl

theorem knownKeys_cons_of_not_mem (h : key ∉ names) :
    knownKeys names ((key, value) :: es) = knownKeys names es := by
  rw [knownKeys, known, List.filter_cons_of_neg (by simpa using h)]
  rfl

theorem knownKeys_sublist (names : List String) (es : List (String × Json)) :
    (knownKeys names es).Sublist (es.map Prod.fst) :=
  List.filter_sublist.map Prod.fst

theorem mem_of_mem_knownKeys (h : key ∈ knownKeys names es) : key ∈ names := by
  obtain ⟨e, he, rfl⟩ := List.mem_map.mp h
  simpa using (List.mem_filter.mp he).2

theorem lookup_known (h : key ∈ names) : (known names es).lookup key = es.lookup key := by
  induction es with
  | nil => rfl
  | cons e es ih =>
    obtain ⟨k, v⟩ := e
    by_cases hk : k ∈ names
    · rw [known, List.filter_cons_of_pos (by simpa using hk), List.lookup_cons, List.lookup_cons]
      rw [← ih, known]
    · have hne : (key == k) = false := by
        rw [beq_eq_false_iff_ne]
        rintro rfl
        exact hk h
      rw [known, List.filter_cons_of_neg (by simpa using hk), List.lookup_cons, hne]
      exact ih

theorem lookup_eq_some_iff_of_known (hnd : (knownKeys names es).Nodup) (h : key ∈ names)
    (value : Json) : es.lookup key = some value ↔ (key, value) ∈ es := by
  rw [← lookup_known h, lookup_eq_some_iff hnd, known, List.mem_filter]
  simp [h]

end Keys

theorem checkEntries_eq_ok_iff (fields : List Field) (seen : List String)
    (es : List (String × Json)) :
    checkEntries fields seen es = .ok () ↔
      (knownKeys (fields.map Field.name) es).Nodup ∧
        (∀ key ∈ knownKeys (fields.map Field.name) es, key ∉ seen) ∧
          ∀ e ∈ es, ∀ field, lookup? Field.name e.1 fields = some field →
            field.check e.2 = .ok () := by
  induction es generalizing seen with
  | nil => simp [checkEntries, knownKeys, known]
  | cons e es ih =>
    obtain ⟨key, value⟩ := e
    have hlookup : fields.find? (·.name == key) = lookup? Field.name key fields := rfl
    rw [checkEntries, hlookup, List.forall_mem_cons]
    cases hfind : lookup? Field.name key fields with
    | none =>
      rw [knownKeys_cons_of_not_mem ((lookup?_eq_none_iff _ _ _).mp hfind)]
      simp [ih]
    | some field =>
      have hin : key ∈ fields.map Field.name :=
        (lookup?_isSome_iff _ _ _).mp (Option.isSome_of_eq_some hfind)
      rw [knownKeys_cons_of_mem hin, List.nodup_cons, List.forall_mem_cons]
      by_cases hseen : key ∈ seen
      · simp only [hseen, if_true]
        constructor
        · intro h
          cases h
        · rintro ⟨-, ⟨hkey, -⟩, -⟩
          exact absurd trivial hkey
      · simp only [hseen, if_false, bind_eq_ok_iff, ih, List.mem_cons, not_or, Option.some.injEq]
        constructor
        · rintro ⟨_, hcheck, hnd, hkeys, hrest⟩
          refine ⟨⟨fun hkey => (hkeys key hkey).1 rfl, hnd⟩,
            ⟨id, fun k hk => (hkeys k hk).2⟩, ?_, hrest⟩
          rintro _ rfl
          exact hcheck
        · rintro ⟨⟨hkey, hnd⟩, ⟨-, hkeys⟩, hcheck, hrest⟩
          refine ⟨(), hcheck field rfl, hnd, fun k hk => ⟨?_, hkeys k hk⟩, hrest⟩
          rintro rfl
          exact hkey hk

variable {ρ : Type}

def writtenEntries (slots : List (Slot ρ)) (r : ρ) : List (String × Json) :=
  slots.filterMap fun s => (s.written r).map (s.name, ·)

def normalEntries (slots : List (Slot ρ)) (es : List (String × Json)) : List (String × Json) :=
  es.filterMap fun e => ((lookup? Slot.name e.1 slots).bind (·.normal e.2)).map (e.1, ·)

section Entries

variable {slots : List (Slot ρ)}

theorem mem_writtenEntries_iff (r : ρ) (key : String) (value : Json) :
    (key, value) ∈ writtenEntries slots r ↔ ∃ s ∈ slots, s.name = key ∧ s.written r = some value := by
  simp only [writtenEntries, List.mem_filterMap, Option.map_eq_some_iff, Prod.mk.injEq]
  constructor
  · rintro ⟨s, hs, _, hvalue, hname, rfl⟩
    exact ⟨s, hs, hname, hvalue⟩
  · rintro ⟨s, hs, hname, hvalue⟩
    exact ⟨s, hs, value, hvalue, hname, rfl⟩

theorem keys_writtenEntries_sublist (slots : List (Slot ρ)) (r : ρ) :
    ((writtenEntries slots r).map Prod.fst).Sublist (slots.map Slot.name) := by
  induction slots with
  | nil => exact List.Sublist.slnil
  | cons s slots ih =>
    rw [writtenEntries, List.filterMap_cons]
    cases s.written r with
    | none => exact ih.cons _
    | some value => exact ih.cons_cons _

theorem keys_normalEntries_sublist (slots : List (Slot ρ)) (es : List (String × Json)) :
    ((normalEntries slots es).map Prod.fst).Sublist (knownKeys (slots.map Slot.name) es) := by
  induction es with
  | nil => exact List.Sublist.slnil
  | cons e es ih =>
    obtain ⟨key, value⟩ := e
    rw [normalEntries, List.filterMap_cons]
    cases hfind : lookup? Slot.name key slots with
    | none =>
      rw [knownKeys_cons_of_not_mem ((lookup?_eq_none_iff _ _ _).mp hfind)]
      exact ih
    | some s =>
      have hin : key ∈ slots.map Slot.name :=
        (lookup?_isSome_iff _ _ _).mp (Option.isSome_of_eq_some hfind)
      rw [knownKeys_cons_of_mem hin, Option.bind_some]
      cases s.normal value with
      | none => exact ih.cons _
      | some value' => exact ih.cons_cons _

theorem lookup_writtenEntries (hnames : (slots.map Slot.name).Nodup) {s : Slot ρ} (hs : s ∈ slots)
    (r : ρ) : (writtenEntries slots r).lookup s.name = s.written r := by
  have hkeys := hnames.sublist (keys_writtenEntries_sublist slots r)
  ext value
  rw [lookup_eq_some_iff hkeys, mem_writtenEntries_iff]
  constructor
  · rintro ⟨s', hs', hname, hvalue⟩
    rwa [List.inj_on_of_nodup_map hnames hs' hs hname] at hvalue
  · intro hvalue
    exact ⟨s, hs, rfl, hvalue⟩

theorem lookup_normalEntries (hnames : (slots.map Slot.name).Nodup) {s : Slot ρ} (hs : s ∈ slots)
    {es : List (String × Json)} (hes : (knownKeys (slots.map Slot.name) es).Nodup) :
    (normalEntries slots es).lookup s.name = (es.lookup s.name).bind s.normal := by
  have hkeys := hes.sublist (keys_normalEntries_sublist slots es)
  have hfound : ∀ value, es.lookup s.name = some value ↔ (s.name, value) ∈ es :=
    lookup_eq_some_iff_of_known hes (List.mem_map_of_mem hs)
  ext value
  rw [lookup_eq_some_iff hkeys, normalEntries, List.mem_filterMap, Option.bind_eq_some_iff]
  constructor
  · rintro ⟨⟨key, found⟩, hmem, h⟩
    obtain ⟨_, hvalue, heq⟩ := Option.map_eq_some_iff.mp h
    obtain ⟨rfl, rfl⟩ := Prod.mk.inj heq
    rw [lookup?_of_mem Slot.name hnames hs] at hvalue
    exact ⟨found, (hfound found).mpr hmem, hvalue⟩
  · rintro ⟨found, hlookup, hvalue⟩
    refine ⟨_, (hfound found).mp hlookup, ?_⟩
    rw [lookup?_of_mem Slot.name hnames hs, Option.bind_some, hvalue, Option.map_some]

end Entries

/-- Whether a record is written as the entries of its slots, and read from an object whose known keys
stand once by a lookup for each slot. -/
structure BySlots (slots : List (Slot ρ)) (decode : Decoder ρ) (encode : ρ → Json) : Prop where
  nodup : (slots.map Slot.name).Nodup
  lawful : ∀ s ∈ slots, s.Lawful
  encode_eq : ∀ r, encode r = .object (writtenEntries slots r)
  decode_eq_ok_iff : ∀ es r, decode (.object es) = .ok r ↔
    checkEntries (slots.map Slot.field) [] es = .ok () ∧ ∀ s ∈ slots, s.Reads r (es.lookup s.name)

namespace BySlots

variable {slots : List (Slot ρ)} {decode : Decoder ρ} {encode : ρ → Json}

theorem checkEntries_eq_ok_iff (slots : List (Slot ρ)) (es : List (String × Json)) :
    checkEntries (slots.map Slot.field) [] es = .ok () ↔
      (knownKeys (slots.map Slot.name) es).Nodup ∧
        ∀ e ∈ es, ∀ s, lookup? Slot.name e.1 slots = some s → s.field.check e.2 = .ok () := by
  have hnames : (slots.map Slot.field).map Field.name = slots.map Slot.name := List.map_map
  have hlookup : ∀ key, lookup? Field.name key (slots.map Slot.field) =
      (lookup? Slot.name key slots).map Slot.field := fun key => List.find?_map
  rw [Json.checkEntries_eq_ok_iff, hnames]
  simp [hlookup]

theorem decode_eq_ok (h : BySlots slots decode encode) {es : List (String × Json)} {r : ρ}
    (hes : (knownKeys (slots.map Slot.name) es).Nodup)
    (hreads : ∀ s ∈ slots, s.Reads r (es.lookup s.name)) : decode (.object es) = .ok r := by
  rw [h.decode_eq_ok_iff, checkEntries_eq_ok_iff]
  refine ⟨⟨hes, ?_⟩, hreads⟩
  rintro ⟨key, value⟩ hmem s hlookup
  have hs : s ∈ slots := mem_of_lookup? Slot.name hlookup
  obtain rfl : s.name = key := key_eq_of_lookup? Slot.name hlookup
  have hfound : es.lookup s.name = some value :=
    (lookup_eq_some_iff_of_known hes (List.mem_map_of_mem hs) value).mpr hmem
  exact (h.lawful s hs).check_of_reads r value (hfound ▸ hreads s hs)

theorem normalEntries_writtenEntries (h : BySlots slots decode encode) (r : ρ) :
    normalEntries slots (writtenEntries slots r) = writtenEntries slots r := by
  have hself : ∀ e ∈ writtenEntries slots r,
      ((lookup? Slot.name e.1 slots).bind (·.normal e.2)).map (e.1, ·) = some e := by
    rintro ⟨key, value⟩ hmem
    obtain ⟨s, hs, rfl, hvalue⟩ := (mem_writtenEntries_iff r key value).mp hmem
    have hnormal := (h.lawful s hs).normal_written r
    rw [hvalue, Option.bind_some] at hnormal
    rw [lookup?_of_mem Slot.name h.nodup hs, Option.bind_some, hnormal, Option.map_some]
  rw [normalEntries, List.filterMap_congr hself, List.filterMap_some]

end BySlots

namespace Format

def record (slots : List (Slot ρ)) (decode : Decoder ρ) (encode : ρ → Json) : Format ρ where
  decode := decode
  encode := encode
  Plain
    | .object es => ∀ e ∈ es, ∀ s ∈ slots, s.name = e.1 → s.Plain e.2
    | _ => False
  normal
    | .object es => .object (normalEntries slots es)
    | value => value

variable {slots : List (Slot ρ)} {decode : Decoder ρ} {encode : ρ → Json}

theorem exists_of_record_decode (h : BySlots slots decode encode) {value : Json} {r : ρ}
    (hplain : (record slots decode encode).Plain value) (hread : decode value = .ok r) :
    ∃ es, value = .object es ∧ (knownKeys (slots.map Slot.name) es).Nodup ∧
      ∀ s ∈ slots, (∀ found ∈ es.lookup s.name, s.Plain found) ∧ s.Reads r (es.lookup s.name) := by
  cases value with
  | object es =>
    obtain ⟨hcheck, hreads⟩ := (h.decode_eq_ok_iff es r).mp hread
    have hes := ((BySlots.checkEntries_eq_ok_iff slots es).mp hcheck).1
    refine ⟨es, rfl, hes, fun s hs => ⟨?_, hreads s hs⟩⟩
    intro found hfound
    have hmem := (lookup_eq_some_iff_of_known hes (List.mem_map_of_mem hs) found).mp hfound
    exact hplain _ hmem s hs rfl
  | _ => exact hplain.elim

theorem record_lawful (h : BySlots slots decode encode) : (record slots decode encode).Lawful := by
  have hwritten : ∀ r, ((writtenEntries slots r).map Prod.fst).Nodup := fun r =>
    h.nodup.sublist (keys_writtenEntries_sublist slots r)
  constructor
  case decode_encode =>
    intro r
    change decode (encode r) = .ok r
    rw [h.encode_eq]
    apply h.decode_eq_ok ((hwritten r).sublist (knownKeys_sublist _ _))
    intro s hs
    rw [lookup_writtenEntries h.nodup hs]
    exact (h.lawful s hs).reads_written r
  case plain_encode =>
    intro r
    change (record slots decode encode).Plain (encode r)
    rw [h.encode_eq]
    rintro ⟨key, value⟩ hmem s hs rfl
    have hlookup : (writtenEntries slots r).lookup s.name = some value :=
      (lookup_eq_some_iff (hwritten r) _ _).mpr hmem
    rw [lookup_writtenEntries h.nodup hs] at hlookup
    exact (h.lawful s hs).plain_written r value hlookup
  case normal_encode =>
    intro r
    change (record slots decode encode).normal (encode r) = encode r
    rw [h.encode_eq]
    exact congrArg Json.object (h.normalEntries_writtenEntries r)
  case same_encode =>
    intro value r hplain hread
    obtain ⟨es, rfl, hes, hslots⟩ := exists_of_record_decode h hplain hread
    change Same (encode r) (.object (normalEntries slots es))
    rw [h.encode_eq]
    apply same_object (hwritten r) (hes.sublist (keys_normalEntries_sublist slots es))
    intro key
    by_cases hkey : key ∈ slots.map Slot.name
    · obtain ⟨s, hs, rfl⟩ := List.mem_map.mp hkey
      obtain ⟨hplain, hreads⟩ := hslots s hs
      rw [lookup_writtenEntries h.nodup hs, lookup_normalEntries h.nodup hs hes]
      exact (h.lawful s hs).same_written r _ hplain hreads
    · -- A key that names no slot is neither written nor left in the normal form.
      have hout : key ∉ (writtenEntries slots r).map Prod.fst := fun hmem =>
        hkey ((keys_writtenEntries_sublist slots r).mem hmem)
      have hout' : key ∉ (normalEntries slots es).map Prod.fst := fun hmem =>
        hkey (mem_of_mem_knownKeys ((keys_normalEntries_sublist slots es).mem hmem))
      rw [lookup_eq_none_of_not_mem hout, lookup_eq_none_of_not_mem hout']
  case decode_normal =>
    intro value r hplain hread
    obtain ⟨es, rfl, hes, hslots⟩ := exists_of_record_decode h hplain hread
    have hkeys := hes.sublist (keys_normalEntries_sublist slots es)
    apply h.decode_eq_ok (hkeys.sublist (knownKeys_sublist _ _))
    intro s hs
    obtain ⟨hplain, hreads⟩ := hslots s hs
    rw [lookup_normalEntries h.nodup hs hes]
    exact (h.lawful s hs).reads_normal r _ hplain hreads

end Format

end CodeAtlas.Json
