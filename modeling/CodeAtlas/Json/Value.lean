import CodeAtlas.Text.Quoted

/-!
# JSON values

The entries of an object keep their order. Numbers are integers, or decimals given by all their digits
and the count of those behind the point.
-/

namespace CodeAtlas

inductive Json where
  | null
  | bool (value : Bool)
  | integer (value : Int)
  | decimal (digits : Int) (places : Nat)
  | string (text : String)
  | array (items : List Json)
  | object (entries : List (String × Json))
  deriving Repr, Inhabited

namespace Json

def strings (texts : List String) : Json := .array (texts.map .string)

def nat (n : Nat) : Json := .integer n

def optional (text : Option String) : Json :=
  match text with
  | some text => .string text
  | none => .null

/-- The text of a decimal, with at least one place and no zeros at its end. -/
def decimalText (digits : Int) (places : Nat) : String :=
  let sign := if digits < 0 then "-" else ""
  let shown := (toString digits.natAbs).toList
  let padded := List.replicate (places + 1 - shown.length) '0' ++ shown
  let whole := padded.take (padded.length - places)
  let part := (((padded.drop (padded.length - places)).reverse.dropWhile (· == '0')).reverse)
  sign ++ String.ofList (whole ++ '.' :: (if part.isEmpty then ['0'] else part))

def describe : Json → String
  | null => "null"
  | bool value => "boolean `" ++ toString value ++ "`"
  | integer value => "integer `" ++ toString value ++ "`"
  | decimal digits places => "floating point `" ++ decimalText digits places ++ "`"
  | string text => "string " ++ Text.quoted text
  | array _ => "sequence"
  | object _ => "map"

end Json

end CodeAtlas
