import CodeAtlas.Text.Case
import CodeAtlas.Text.PrintTable

/-!
# Quoted text

A text between double quotes, with everything escaped that has no visible form of its own.
-/

namespace CodeAtlas.Text

def hexDigits (n : Nat) : List Char := Nat.toDigits 16 n

def needsEscape (c : Char) : Bool :=
  inRanges unprintableRanges c.toNat || inRanges graphemeExtendRanges c.toNat

def quoteChar (c : Char) : List Char :=
  match c with
  | '"' => ['\\', '"']
  | '\\' => ['\\', '\\']
  | '\n' => ['\\', 'n']
  | '\t' => ['\\', 't']
  | '\r' => ['\\', 'r']
  | '\x00' => ['\\', '0']
  | _ =>
    if c.toNat < 0x7f ∧ 0x20 ≤ c.toNat then [c]
    else if needsEscape c then '\\' :: 'u' :: '\x7b' :: hexDigits c.toNat ++ ['\x7d']
    else [c]

def quoted (s : String) : String :=
  String.ofList ('"' :: s.toList.flatMap quoteChar ++ ['"'])

end CodeAtlas.Text
