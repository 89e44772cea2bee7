import CodeAtlas.Json.Record
import CodeAtlas.Proofs.Except
import CodeAtlas.Proofs.Json.Value
import Mathlib.Data.List.Forall2

/-!
# Formats

A format writes the values of a type and reads them back. It is lawful if what is written is read as the
value it came from, and if what is read is written again as the same text, less what reading passes over.
Texts and variants have lawful formats, and lists have one if their items do.
-/

namespace CodeAtlas.Json

theorem mapM_eq_ok_iff {ε α β : Type} (f : α → Except ε β) (xs : List α) (ys : List β) :
    xs.mapM f = .ok ys ↔ List.Forall₂ (fun x y => f x = .ok y) xs ys := by
  induction xs generalizing ys with
  | nil =>
    rw [List.mapM_nil, List.forall₂_nil_left_iff]
    exact ⟨fun h => (Except.ok.inj h).symm, fun h => h ▸ rfl⟩
  | cons x xs ih =>
    rw [List.mapM_cons, bind_eq_ok_iff, List.forall₂_cons_left_iff]
    constructor
    · rintro ⟨y, hy, h⟩
      obtain ⟨ys', hys, h⟩ := (bind_eq_ok_iff _ _ _).mp h
      exact ⟨y, ys', hy, (ih ys').mp hys, (Except.ok.inj h).symm⟩
    · rintro ⟨y, ys', hy, hys, rfl⟩
      refine ⟨y, hy, (bind_eq_ok_iff _ _ _).mpr ⟨ys', (ih ys').mpr hys, rfl⟩⟩

structure Format (α : Type) where
  decode : Decoder α
  encode : α → Json
  /-- Whether the records in a value are objects, and the variants texts. -/
  Plain : Json → Prop
  /-- The value without what reading passes over. -/
  normal : Json → Json

namespace Format

variable {α : Type}

structure Lawful (f : Format α) : Prop where
  decode_encode : ∀ a, f.decode (f.encode a) = .ok a
  plain_encode : ∀ a, f.Plain (f.encode a)
  normal_encode : ∀ a, f.normal (f.encode a) = f.encode a
  same_encode : ∀ value a, f.Plain value → f.decode value = .ok a →
    Same (f.encode a) (f.normal value)
  decode_normal : ∀ value a, f.Plain value → f.decode value = .ok a →
    f.decode (f.normal value) = .ok a

def text : Format String where
  decode := Json.text
  encode := .string
  Plain _ := True
  normal value := value

theorem text_eq_ok_iff (value : Json) (s : String) : Json.text value = .ok s ↔ value = .string s := by
  cases value <;> simp [Json.text]

theorem text_lawful : text.Lawful where
  decode_encode _ := rfl
  plain_encode _ := trivial
  normal_encode _ := rfl
  same_encode value s _ h := by
    rw [(text_eq_ok_iff value s).mp h]
    exact Same.refl _
  decode_normal _ _ _ h := h

def variant (all : List α) (label : α → String) : Format α where
  decode := Json.variant all label
  encode a := .string (label a)
  Plain value := ∃ found, value = .string found
  normal value := value

theorem variant_string_eq_ok_iff {all : List α} {label : α → String} (hall : ∀ a, a ∈ all)
    (hlabel : Function.Injective label) (found : String) (a : α) :
    Json.variant all label (.string found) = .ok a ↔ label a = found := by
  rw [Json.variant, variant.named]
  cases hfind : all.find? (label · == found) with
  | none =>
    have hne : label a ≠ found := by
      have hall' := List.find?_eq_none.mp hfind a (hall a)
      simpa using hall'
    simp [hne]
  | some b =>
    have hb : label b = found := by simpa using List.find?_some hfind
    simp only [Except.ok.injEq]
    exact ⟨fun h => h ▸ hb, fun h => hlabel (hb.trans h.symm)⟩

theorem variant_lawful {all : List α} {label : α → String} (hall : ∀ a, a ∈ all)
    (hlabel : Function.Injective label) : (variant all label).Lawful where
  decode_encode a := (variant_string_eq_ok_iff hall hlabel (label a) a).mpr rfl
  plain_encode a := ⟨label a, rfl⟩
  normal_encode _ := rfl
  same_encode value a hplain h := by
    obtain ⟨found, rfl⟩ := hplain
    rw [← (variant_string_eq_ok_iff hall hlabel found a).mp h]
    exact Same.refl _
  decode_normal _ _ _ h := h

def sequence (f : Format α) : Format (List α) where
  decode := Json.sequence f.decode
  encode as := .array (as.map f.encode)
  Plain
    | .array items => ∀ item ∈ items, f.Plain item
    | _ => True
  normal
    | .array items => .array (items.map f.normal)
    | value => value

theorem sequence_eq_ok_iff (f : Format α) (value : Json) (as : List α) :
    f.sequence.decode value = .ok as ↔ ∃ items, value = .array items ∧
      List.Forall₂ (fun item a => f.decode item = .ok a) items as := by
  cases value with
  | array items =>
    change items.mapM f.decode = .ok as ↔ _
    rw [mapM_eq_ok_iff]
    simp
  | _ => simp [sequence, Json.sequence]

theorem sequence_lawful {f : Format α} (hf : f.Lawful) : f.sequence.Lawful where
  decode_encode as := by
    rw [sequence_eq_ok_iff]
    refine ⟨_, rfl, ?_⟩
    rw [List.forall₂_map_left_iff, List.forall₂_same]
    exact fun a _ => hf.decode_encode a
  plain_encode as := by
    intro item hitem
    obtain ⟨a, -, rfl⟩ := List.mem_map.mp hitem
    exact hf.plain_encode a
  normal_encode as := by
    have hitems : (as.map f.encode).map f.normal = as.map f.encode := by
      rw [List.map_map]
      exact List.map_congr_left fun a _ => hf.normal_encode a
    exact congrArg Json.array hitems
  same_encode value as hplain h := by
    obtain ⟨items, rfl, hitems⟩ := (sequence_eq_ok_iff f value as).mp h
    have hread := (List.forall₂_and_left _ _).mpr ⟨hplain, hitems⟩
    clear hplain h hitems
    apply same_array
    induction hread with
    | nil => rfl
    | @cons item a items as hitem _ ih =>
      have hsame : (f.encode a).sorted = (f.normal item).sorted :=
        hf.same_encode item a hitem.1 hitem.2
      simp only [List.map_cons, hsame, ih]
  decode_normal value as hplain h := by
    obtain ⟨items, rfl, hitems⟩ := (sequence_eq_ok_iff f value as).mp h
    rw [sequence_eq_ok_iff]
    refine ⟨_, rfl, ?_⟩
    rw [List.forall₂_map_left_iff]
    have hread := (List.forall₂_and_left _ _).mpr ⟨hplain, hitems⟩
    exact hread.imp fun item a hitem => hf.decode_normal item a hitem.1 hitem.2

end Format

end CodeAtlas.Json
