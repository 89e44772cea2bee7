import CodeAtlas.Text.Number
import CodeAtlas.Text.Search
import CodeAtlas.Toml.Value

/-!
# TOML scalars

Numbers, truth values and dates, read as whole words.
-/

namespace CodeAtlas.Toml

/-- The digits of a number whose underscores each stand between two digits. -/
def digits? (radix : Nat) (cs : List Char) : Option (List Char) :=
  let groups := Text.splitAt '_' cs
  if groups.all fun g => !g.isEmpty && g.all fun c => (Text.digitValue? radix c).isSome then
    some groups.flatten
  else none

def radixNumber? (radix bound : Nat) (cs : List Char) : Option Nat := do
  let ds ← digits? radix cs
  (Text.readUnsigned radix bound ds).toOption

def wholeDigits? (cs : List Char) : Option (List Char) :=
  if cs.head? = some '0' ∧ cs ≠ ['0'] then none else digits? 10 cs

def decimal? (bound : Nat) (cs : List Char) : Option Nat := do
  let ds ← wholeDigits? cs
  (Text.readUnsigned 10 bound ds).toOption

def maxInteger : Nat := 0x7fffffffffffffff

def integer? : List Char → Option Int
  | '0' :: 'x' :: cs => (radixNumber? 16 maxInteger cs).map Int.ofNat
  | '0' :: 'o' :: cs => (radixNumber? 8 maxInteger cs).map Int.ofNat
  | '0' :: 'b' :: cs => (radixNumber? 2 maxInteger cs).map Int.ofNat
  | '+' :: cs => (decimal? maxInteger cs).map Int.ofNat
  | '-' :: cs => (decimal? (maxInteger + 1) cs).map fun n => -(n : Int)
  | cs => (decimal? maxInteger cs).map Int.ofNat

def digitsValue (cs : List Char) : Nat :=
  cs.foldl (fun n c => 10 * n + (Text.digitValue? 10 c).getD 0) 0

/-- The least number that rounds to infinity in double precision. -/
def overflowBound : Nat := 0x3fffffffffffff <<< 970

def overflows (digits : List Char) (exponent : Int) : Bool :=
  let ds := digits.dropWhile (· == '0')
  let size : Int := ds.length + exponent
  if ds.isEmpty || size ≤ 308 then false
  else if 310 ≤ size then true
  else
    let n := digitsValue ds
    if 0 ≤ exponent then overflowBound ≤ n * Nat.pow 10 exponent.toNat
    else overflowBound * Nat.pow 10 (-exponent).toNat ≤ n

def exponent? (cs : List Char) : Option Int :=
  match cs with
  | '+' :: ds => (digits? 10 ds).map fun ds => Int.ofNat (digitsValue ds)
  | '-' :: ds => (digits? 10 ds).map fun ds => -Int.ofNat (digitsValue ds)
  | ds => (digits? 10 ds).map fun ds => Int.ofNat (digitsValue ds)

def floatParts? (cs : List Char) : Option (List Char × Int) := do
  let (mantissa, power) := cs.span fun c => c != 'e' && c != 'E'
  let exponent ← if power.isEmpty then some 0 else exponent? power.tail
  match Text.splitAt '.' mantissa with
  | [whole] => if power.isEmpty then none else (wholeDigits? whole).map (·, exponent)
  | [whole, fraction] =>
    let whole ← wholeDigits? whole
    let fraction ← digits? 10 fraction
    some (whole ++ fraction, exponent - fraction.length)
  | _ => none

def isUnsignedFloat (allowOverflow : Bool) (cs : List Char) : Bool :=
  cs == "inf".toList || cs == "nan".toList ||
    match floatParts? cs with
    | some (digits, exponent) => allowOverflow || !overflows digits exponent
    | none => false

/-- A number may be too large only below zero. -/
def isFloat : List Char → Bool
  | '+' :: cs => isUnsignedFloat false cs
  | '-' :: cs => isUnsignedFloat true cs
  | cs => isUnsignedFloat false cs

def fieldValue? (cs : List Char) : Option Nat :=
  if cs.all Char.isDigit then some (digitsValue cs) else none

def fieldIn (low high : Nat) (cs : List Char) : Bool :=
  (fieldValue? cs).any fun n => low ≤ n && n ≤ high

def isLeapYear (year : Nat) : Bool := year % 4 = 0 ∧ (year % 100 ≠ 0 ∨ year % 400 = 0)

def daysIn (year month : Nat) : Nat :=
  if month = 2 then if isLeapYear year then 29 else 28
  else if month ∈ [4, 6, 9, 11] then 30
  else 31

def isDate : List Char → Bool
  | [y1, y2, y3, y4, '-', m1, m2, '-', d1, d2] =>
    match fieldValue? [y1, y2, y3, y4], fieldValue? [m1, m2] with
    | some year, some month =>
      1 ≤ month && month ≤ 12 && fieldIn 1 (daysIn year month) [d1, d2]
    | _, _ => false
  | _ => false

def afterFraction? : List Char → Option (List Char)
  | '.' :: rest =>
    match rest with
    | c :: _ => if c.isDigit then some (rest.dropWhile Char.isDigit) else none
    | [] => none
  | cs => some cs

def afterTime? : List Char → Option (List Char)
  | h1 :: h2 :: ':' :: m1 :: m2 :: ':' :: s1 :: s2 :: rest =>
    if fieldIn 0 23 [h1, h2] && fieldIn 0 59 [m1, m2] && fieldIn 0 60 [s1, s2] then
      afterFraction? rest
    else none
  | _ => none

def isOffset : List Char → Bool
  | [] | ['Z'] | ['z'] => true
  | [sign, h1, h2, ':', m1, m2] =>
    (sign == '+' || sign == '-') && fieldIn 0 23 [h1, h2] && fieldIn 0 59 [m1, m2]
  | _ => false

def isDateTime (cs : List Char) : Bool :=
  afterTime? cs == some [] ||
    (isDate (cs.take 10) &&
      match cs.drop 10 with
      | [] => true
      | delimiter :: time =>
        (delimiter == 'T' || delimiter == 't' || delimiter == ' ') &&
          (afterTime? time).any isOffset)

def scalar? (word : List Char) : Option Toml :=
  if word = "true".toList then some (.boolean true)
  else if word = "false".toList then some (.boolean false)
  else
    match integer? word with
    | some n => some (.integer n)
    | none =>
      if isFloat word then some .float
      else if isDateTime word then some .date
      else none

def isWordChar (c : Char) : Bool :=
  c.isAlphanum || c == '+' || c == '-' || c == '_' || c == '.' || c == ':'

/-- The next word. A blank between a date and digits belongs to it. -/
def takeWord (cs : List Char) : List Char × List Char :=
  let (word, rest) := cs.span isWordChar
  match rest with
  | ' ' :: c :: _ =>
    if isDate word && c.isDigit then
      let (time, rest) := rest.tail.span isWordChar
      (word ++ ' ' :: time, rest)
    else (word, rest)
  | _ => (word, rest)

end CodeAtlas.Toml
