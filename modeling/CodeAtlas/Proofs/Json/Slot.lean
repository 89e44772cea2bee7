import CodeAtlas.Proofs.Json.Format

/-!
# Slots

A slot is a field of a record together with what the record writes there and what it takes from there. A
required slot takes what the format of its part reads. An optional one is left out where the record has
nothing for it, and takes a null there as well.
-/

namespace CodeAtlas.Json

structure Slot (ρ : Type) where
  field : Field
  written : ρ → Option Json
  Reads : ρ → Option Json → Prop
  Plain : Json → Prop
  /-- The value without what reading passes over, or nothing if the value itself is passed over. -/
  normal : Json → Option Json

namespace Slot

variable {α ρ : Type}

def name (s : Slot ρ) : String := s.field.name

structure Lawful (s : Slot ρ) : Prop where
  reads_written : ∀ r, s.Reads r (s.written r)
  plain_written : ∀ r, ∀ value ∈ s.written r, s.Plain value
  normal_written : ∀ r, (s.written r).bind s.normal = s.written r
  check_of_reads : ∀ r value, s.Reads r (some value) → s.field.check value = .ok ()
  same_written : ∀ r found, (∀ value ∈ found, s.Plain value) → s.Reads r found →
    (s.written r).map sorted = (found.bind s.normal).map sorted
  reads_normal : ∀ r found, (∀ value ∈ found, s.Plain value) → s.Reads r found →
    s.Reads r (found.bind s.normal)

def required (name : String) (f : Format α) (get : ρ → α) : Slot ρ where
  field := Json.required name f.decode
  written r := some (f.encode (get r))
  Reads r found := ∃ value, found = some value ∧ f.decode value = .ok (get r)
  Plain := f.Plain
  normal value := some (f.normal value)

theorem required_lawful (name : String) {f : Format α} (hf : f.Lawful) (get : ρ → α) :
    (required name f get).Lawful where
  reads_written r := ⟨_, rfl, hf.decode_encode (get r)⟩
  plain_written r := by
    rintro value hvalue
    obtain rfl := Option.some.inj hvalue
    exact hf.plain_encode (get r)
  normal_written r := congrArg some (hf.normal_encode (get r))
  check_of_reads r := by
    rintro value ⟨_, ⟨⟩, hvalue⟩
    change (f.decode value).map _ = _
    rw [hvalue]
    rfl
  same_written r := by
    rintro _ hplain ⟨value, rfl, hvalue⟩
    exact congrArg some (hf.same_encode value (get r) (hplain value rfl) hvalue)
  reads_normal r := by
    rintro _ hplain ⟨value, rfl, hvalue⟩
    exact ⟨_, rfl, hf.decode_normal value (get r) (hplain value rfl) hvalue⟩

inductive Nullable (f : Format α) : Option α → Option Json → Prop where
  | absent : Nullable f none none
  | null : Nullable f none (some .null)
  | present {value : Json} {a : α} (hvalue : value ≠ .null) (hread : f.decode value = .ok a) :
    Nullable f (some a) (some value)

theorem nullable_of_ne_null {decode : Decoder α} {value : Json} (h : value ≠ .null) :
    nullable decode value = (decode value).map some := by
  cases value with
  | null => exact absurd rfl h
  | _ => rfl

theorem nullable_eq_ok_iff (f : Format α) (value : Json) (found : Option α) :
    nullable f.decode value = .ok found ↔ Nullable f found (some value) := by
  by_cases hnull : value = .null
  · subst hnull
    constructor
    · rintro ⟨⟩
      exact .null
    · intro h
      cases h with
      | null => rfl
      | present hvalue _ => exact absurd rfl hvalue
  · rw [nullable_of_ne_null hnull]
    constructor
    · intro h
      cases hread : f.decode value with
      | error e =>
        rw [hread] at h
        cases h
      | ok a =>
        rw [hread] at h
        obtain rfl := Except.ok.inj h
        exact .present hnull hread
    · intro h
      cases h with
      | null => exact absurd rfl hnull
      | present _ hread =>
        rw [hread]
        rfl

def optional (name : String) (f : Format α) (get : ρ → Option α) : Slot ρ where
  field := omissible name (nullable f.decode)
  written r := (get r).map f.encode
  Reads r found := Nullable f (get r) found
  Plain value := value = .null ∨ f.Plain value
  normal
    | .null => none
    | value => some (f.normal value)

theorem optional_normal {name : String} {f : Format α} {get : ρ → Option α} {value : Json}
    (h : value ≠ .null) : (optional name f get).normal value = some (f.normal value) := by
  cases value with
  | null => exact absurd rfl h
  | _ => rfl

theorem optional_lawful (name : String) {f : Format α} (hf : f.Lawful)
    (hnull : ∀ a, f.decode .null ≠ .ok a) (get : ρ → Option α) : (optional name f get).Lawful := by
  -- A null is read as nothing, so what the format reads is told apart from it.
  have hne : ∀ value a, f.decode value = .ok a → value ≠ .null := by
    rintro _ a hread rfl
    exact hnull a hread
  have hencode : ∀ a, f.encode a ≠ .null := fun a => hne _ a (hf.decode_encode a)
  constructor
  case reads_written =>
    intro r
    change Nullable f (get r) ((get r).map f.encode)
    cases get r with
    | none => exact .absent
    | some a => exact .present (hencode a) (hf.decode_encode a)
  case plain_written =>
    intro r value h
    obtain ⟨a, -, rfl⟩ := Option.map_eq_some_iff.mp h
    exact .inr (hf.plain_encode a)
  case normal_written =>
    intro r
    change ((get r).map f.encode).bind _ = (get r).map f.encode
    cases get r with
    | none => rfl
    | some a => rw [Option.map_some, Option.bind_some, optional_normal (hencode a), hf.normal_encode]
  case check_of_reads =>
    intro r value h
    have hread : nullable f.decode value = .ok (get r) := (nullable_eq_ok_iff f value _).mpr h
    change (nullable f.decode value).map _ = _
    rw [hread]
    rfl
  case same_written =>
    intro r found hplain h
    change Nullable f (get r) found at h
    change ((get r).map f.encode).map sorted = _
    generalize get r = a at h
    cases h with
    | absent => rfl
    | null => rfl
    | @present value a hvalue hread =>
      have hplain' : f.Plain value := (hplain value rfl).resolve_left hvalue
      rw [Option.bind_some, optional_normal hvalue]
      exact congrArg some (hf.same_encode value a hplain' hread)
  case reads_normal =>
    intro r found hplain h
    change Nullable f (get r) found at h
    change Nullable f (get r) (found.bind _)
    generalize get r = a at h
    cases h with
    | absent => exact .absent
    | null => exact .absent
    | @present value a hvalue hread =>
      have hplain' : f.Plain value := (hplain value rfl).resolve_left hvalue
      have hread' := hf.decode_normal value a hplain' hread
      rw [Option.bind_some, optional_normal hvalue]
      exact .present (hne _ a hread') hread'

end Slot

end CodeAtlas.Json
