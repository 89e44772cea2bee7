/-!
# UTF-8

Decoding bytes. A byte that cannot follow the ones before it ends the character begun there, and each
such beginning counts as one invalid part.
-/

namespace CodeAtlas.Text

/-- A character whose first bytes have been read: their value, the number of bytes still missing,
and the bounds of the next one. -/
structure Utf8Partial where
  value : Nat
  missing : Nat
  low : UInt8
  high : UInt8
  deriving Repr

inductive Utf8Lead where
  | whole (c : Char)
  | begun (p : Utf8Partial)
  | invalid

def utf8Lead (b : UInt8) : Utf8Lead :=
  let n := b.toNat
  if n < 0x80 then .whole (Char.ofNat n)
  else if n < 0xc2 then .invalid
  else if n < 0xe0 then .begun ⟨n - 0xc0, 1, 0x80, 0xbf⟩
  else if n = 0xe0 then .begun ⟨0, 2, 0xa0, 0xbf⟩
  else if n = 0xed then .begun ⟨0xd, 2, 0x80, 0x9f⟩
  else if n < 0xf0 then .begun ⟨n - 0xe0, 2, 0x80, 0xbf⟩
  else if n = 0xf0 then .begun ⟨0, 3, 0x90, 0xbf⟩
  else if n < 0xf4 then .begun ⟨n - 0xf0, 3, 0x80, 0xbf⟩
  else if n = 0xf4 then .begun ⟨4, 3, 0x80, 0x8f⟩
  else .invalid

/-- The characters, with nothing in the place of each invalid part. -/
def decodeUtf8From (begun : Option Utf8Partial) : List UInt8 → List (Option Char)
  | [] => if begun.isSome then [none] else []
  | b :: rest =>
    let lead (_ : Unit) : List (Option Char) :=
      match utf8Lead b with
      | .whole c => some c :: decodeUtf8From none rest
      | .begun p => decodeUtf8From (some p) rest
      | .invalid => none :: decodeUtf8From none rest
    match begun with
    | none => lead ()
    | some p =>
      if p.low ≤ b ∧ b ≤ p.high then
        let value := p.value * 64 + (b.toNat - 0x80)
        if p.missing = 1 then some (Char.ofNat value) :: decodeUtf8From none rest
        else decodeUtf8From (some ⟨value, p.missing - 1, 0x80, 0xbf⟩) rest
      else none :: lead ()

/-- Decodes with the replacement character for each invalid part. -/
def decodeUtf8 (bytes : List UInt8) : String :=
  String.ofList ((decodeUtf8From none bytes).map (·.getD '\ufffd'))

def decodeUtf8? (bytes : List UInt8) : Option String :=
  ((decodeUtf8From none bytes).mapM id).map String.ofList

def encodeUtf8 (s : String) : List UInt8 := s.toUTF8.toList

end CodeAtlas.Text
