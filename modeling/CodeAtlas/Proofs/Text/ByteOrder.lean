import CodeAtlas.Proofs.Text.Prefix
import CodeAtlas.Text.Utf8

/-!
# Texts in the order of their bytes

UTF-8 keeps the order of texts: of two texts the one that comes first by its code points comes first by
its bytes, and a text starts with another just if its bytes do. Of a code point the first byte tells how
many bytes follow, more of them for a greater code point, and each of these holds six bits.
-/

namespace CodeAtlas

namespace Text

theorem toList_loop (bytes : ByteArray) (i : Nat) (read : List UInt8) :
    ByteArray.toList.loop bytes i read = read.reverse ++ bytes.data.toList.drop i := by
  fun_induction ByteArray.toList.loop bytes i read with
  | case1 i read hlt ih =>
    have hlen : i < bytes.data.toList.length := hlt
    have hget : bytes.get! i = bytes.data.toList[i] := getElem!_pos bytes.data i hlt
    rw [ih, List.reverse_cons, List.append_assoc, List.drop_eq_getElem_cons hlen, hget]
    rfl
  | case2 i read hge =>
    rw [List.drop_eq_nil_of_le (Nat.le_of_not_lt hge), List.append_nil]

theorem encodeUtf8_eq (s : String) : encodeUtf8 s = s.toList.flatMap String.utf8EncodeChar := by
  have hbytes : s.toUTF8 = s.toList.utf8Encode := by
    rw [String.toUTF8_eq_toByteArray, ← String.toByteArray_ofList, String.ofList_toList]
  rw [encodeUtf8, ByteArray.toList, toList_loop, List.reverse_nil, List.nil_append, List.drop_zero,
    hbytes, List.utf8Encode, List.toList_data_toByteArray]

def laterCount (code : Nat) : Nat :=
  if code ≤ 127 then 0 else if code ≤ 2047 then 1 else if code ≤ 65535 then 2 else 3

def leadMark : Nat → Nat
  | 0 => 0
  | 1 => 192
  | 2 => 224
  | _ => 240

def leadByte (code : Nat) : Nat := code / 64 ^ laterCount code + leadMark (laterCount code)

def laterBytes : Nat → Nat → List UInt8
  | 0, _ => []
  | count + 1, code => UInt8.ofNat (code / 64 ^ count % 64 + 128) :: laterBytes count code

theorem codePoint_lt (c : Char) : c.val.toNat < 0x110000 := by
  rcases c.valid with h | h
  · exact h.trans (by decide)
  · exact h.2

theorem utf8EncodeChar_eq (c : Char) :
    String.utf8EncodeChar c =
      UInt8.ofNat (leadByte c.val.toNat) :: laterBytes (laterCount c.val.toNat) c.val.toNat := by
  have hc := codePoint_lt c
  rw [String.utf8EncodeChar.eq_1]
  generalize c.val.toNat = code at *
  -- in each case the bits of the first byte that are masked out are zero
  by_cases h1 : code ≤ 127
  · simp [h1, leadByte, laterCount, leadMark, laterBytes]
  by_cases h2 : code ≤ 2047
  · have hlead : code / 64 % 32 = code / 64 := by omega
    simp [h1, h2, leadByte, laterCount, leadMark, laterBytes, hlead]
  by_cases h3 : code ≤ 65535
  · have hlead : code / 4096 % 16 = code / 4096 := by omega
    simp [h1, h2, h3, leadByte, laterCount, leadMark, laterBytes, hlead]
  · have hlead : code / 262144 % 8 = code / 262144 := by omega
    simp [h1, h2, h3, leadByte, laterCount, leadMark, laterBytes, hlead]

theorem leadByte_lt_size {code : Nat} (h : code < 0x110000) : leadByte code < 256 := by
  simp only [leadByte, laterCount]
  split_ifs <;> simp only [leadMark] <;> omega

theorem leadByte_lt_of_ne {m n : Nat} (h : m < n) (hn : n < 0x110000)
    (hcount : laterCount m ≠ laterCount n) : leadByte m < leadByte n := by
  simp only [leadByte, laterCount] at hcount ⊢
  split_ifs at hcount ⊢ <;> simp only [leadMark] <;> omega

theorem laterBytes_lt {count m n : Nat} (h : m < n) (htop : m / 64 ^ count = n / 64 ^ count)
    (xs ys : List UInt8) : laterBytes count m ++ xs < laterBytes count n ++ ys := by
  induction count with
  | zero =>
    rw [pow_zero, Nat.div_one, Nat.div_one] at htop
    exact absurd htop h.ne
  | succ count ih =>
    rw [laterBytes, laterBytes, List.cons_append, List.cons_append, List.cons_lt_cons_iff]
    by_cases heq : m / 64 ^ count = n / 64 ^ count
    · exact Or.inr ⟨by rw [heq], ih heq⟩
    · have hle : m / 64 ^ count ≤ n / 64 ^ count := Nat.div_le_div_right h.le
      rw [pow_succ, ← Nat.div_div_eq_div_mul, ← Nat.div_div_eq_div_mul] at htop
      rw [UInt8.lt_iff_toNat_lt, UInt8.toNat_ofNat', UInt8.toNat_ofNat']
      omega

theorem utf8EncodeChar_lt {c d : Char} (h : c < d) (xs ys : List UInt8) :
    String.utf8EncodeChar c ++ xs < String.utf8EncodeChar d ++ ys := by
  have hcd : c.val.toNat < d.val.toNat := h
  have hd := codePoint_lt d
  rw [utf8EncodeChar_eq, utf8EncodeChar_eq, List.cons_append, List.cons_append,
    List.cons_lt_cons_iff]
  generalize c.val.toNat = m at *
  generalize d.val.toNat = n at *
  have hm : leadByte m < 256 := leadByte_lt_size (hcd.trans hd)
  have hn : leadByte n < 256 := leadByte_lt_size hd
  have hlead : leadByte m < leadByte n → UInt8.ofNat (leadByte m) < UInt8.ofNat (leadByte n) := by
    rw [UInt8.lt_iff_toNat_lt, UInt8.toNat_ofNat', UInt8.toNat_ofNat', Nat.mod_eq_of_lt hm,
      Nat.mod_eq_of_lt hn]
    exact id
  by_cases hcount : laterCount m = laterCount n
  · by_cases htop : m / 64 ^ laterCount m = n / 64 ^ laterCount m
    · right
      have heq : leadByte m = leadByte n := by rw [leadByte, leadByte, ← hcount, htop]
      rw [heq, ← hcount]
      exact ⟨rfl, laterBytes_lt hcd htop xs ys⟩
    · left
      have hle : m / 64 ^ laterCount m ≤ n / 64 ^ laterCount m := Nat.div_le_div_right hcd.le
      apply hlead
      rw [leadByte, leadByte, ← hcount]
      exact Nat.add_lt_add_right (lt_of_le_of_ne hle htop) _
  · exact Or.inl (hlead (leadByte_lt_of_ne hcd hd hcount))

theorem flatMap_utf8EncodeChar_lt {cs ds : List Char} (h : cs < ds) :
    cs.flatMap String.utf8EncodeChar < ds.flatMap String.utf8EncodeChar := by
  induction h with
  | nil =>
    rw [List.flatMap_nil, List.flatMap_cons, utf8EncodeChar_eq]
    exact List.nil_lt_cons _ _
  | rel hcd =>
    rw [List.flatMap_cons, List.flatMap_cons]
    exact utf8EncodeChar_lt hcd _ _
  | cons _ ih =>
    rw [List.flatMap_cons, List.flatMap_cons]
    exact List.append_left_lt ih

theorem encodeUtf8_lt_iff (s t : String) : encodeUtf8 s < encodeUtf8 t ↔ s < t := by
  have hmono {s t : String} (h : s < t) : encodeUtf8 s < encodeUtf8 t := by
    rw [encodeUtf8_eq, encodeUtf8_eq]
    exact flatMap_utf8EncodeChar_lt (String.lt_iff_toList_lt.mp h)
  refine ⟨?_, hmono⟩
  intro h
  rcases lt_trichotomy s t with hst | rfl | hts
  · exact hst
  · exact absurd h (List.lt_irrefl _)
  · exact absurd (hmono hts) (List.lt_asymm h)

/-- No code point is lost or torn where the bytes of a text are cut at those of another. -/
theorem encodeUtf8_prefix_iff (start text : String) :
    encodeUtf8 start <+: encodeUtf8 text ↔ start.toList <+: text.toList := by
  constructor
  · rintro ⟨rest, hrest⟩
    apply List.isPrefix_of_utf8Encode_append_eq_utf8Encode rest.toByteArray
    rw [encodeUtf8_eq, encodeUtf8_eq] at hrest
    rw [List.utf8Encode, List.utf8Encode, ← List.toByteArray_append, hrest]
  · rintro ⟨rest, hrest⟩
    refine ⟨rest.flatMap String.utf8EncodeChar, ?_⟩
    rw [encodeUtf8_eq, encodeUtf8_eq, ← List.flatMap_append, hrest]

end Text

end CodeAtlas
