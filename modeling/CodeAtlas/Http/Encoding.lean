import CodeAtlas.Text.Number
import CodeAtlas.Text.Search
import CodeAtlas.Text.Utf8

/-!
# Percent encoding and forms

A percent sign that is not followed by two hexadecimal digits stands for itself.
-/

namespace CodeAtlas.Http

def hexValue? (b : UInt8) : Option Nat := Text.digitValue? 16 (Char.ofNat b.toNat)

def percentSign : UInt8 := 0x25

def percentDecode : List UInt8 → List UInt8
  | b :: high :: low :: rest =>
    match b == percentSign, hexValue? high, hexValue? low with
    | true, some h, some l => (16 * h + l).toUInt8 :: percentDecode rest
    | _, _, _ => b :: percentDecode (high :: low :: rest)
  | bytes => bytes

/-- A part of a form: a plus sign stands for a blank, and invalid text is replaced. -/
def decodeFormPart (cs : List Char) : String :=
  let blanks := cs.map fun c => if c = '+' then ' ' else c
  Text.decodeUtf8 (percentDecode (Text.encodeUtf8 (String.ofList blanks)))

/-- The pairs of a form. A pair without an equals sign has an empty value. -/
def parseForm (cs : List Char) : List (String × String) :=
  ((Text.splitAt '&' cs).filter (!·.isEmpty)).map fun pair =>
    (decodeFormPart (pair.takeWhile (· != '=')),
      decodeFormPart ((pair.dropWhile (· != '=')).drop 1))

def decodePathPart (part : String) : Option String :=
  Text.decodeUtf8? (percentDecode (Text.encodeUtf8 part))

end CodeAtlas.Http
