import CodeAtlas.Markup.Fault

/-!
# Entity and character references

Replacing `&name;` and `&#number;` in raw text. A reference ends at the next semicolon; another
ampersand before it, or none at all, is a fault that covers the text from the ampersand on.
-/

namespace CodeAtlas.Markup

def predefinedEntity? (name : List Char) : Option Char :=
  match String.ofList name with
  | "lt" => some '<'
  | "gt" => some '>'
  | "amp" => some '&'
  | "apos" => some '\''
  | "quot" => some '"'
  | _ => none

def readCode (radix : Nat) (digits : List Char) : Except ReferenceFault Nat :=
  match digits with
  | '+' :: _ | '-' :: _ => .error .signed
  | _ => (Text.readUnsigned radix 0xffffffff digits).mapError .number

def readCharacter (number : List Char) : Except ReferenceFault Char := do
  let code ← match number with
    | 'x' :: digits => readCode 16 digits
    | digits => readCode 10 digits
  if code = 0 then .error .nul
  else if code.isValidChar then .ok (Char.ofNat code)
  else .error (.notACharacter code)

def resolve (first : Nat) (name : List Char) : Except ReferenceFault Char :=
  match name with
  | '#' :: number => readCharacter number
  | _ =>
    match predefinedEntity? name with
    | some c => .ok c
    | none =>
      let text := String.ofList name
      .error (.unrecognized first (first + text.utf8ByteSize) text)

/-- `opened` is the position of an ampersand still without its semicolon, with the characters since
then, nearest first. -/
def decodeFrom (size : Nat) (position : Nat) (opened : Option (Nat × List Char)) :
    List Char → Except ReferenceFault (List Char)
  | [] =>
    match opened with
    | none => .ok []
    | some (start, _) => .error (.unterminated start size)
  | c :: rest =>
    let next := position + c.utf8Size
    match opened with
    | none =>
      if c = '&' then decodeFrom size next (some (position, [])) rest
      else (decodeFrom size next none rest).map (c :: ·)
    | some (start, name) =>
      if c = '&' then .error (.unterminated start size)
      else if c = ';' then do
        let d ← resolve (start + 1) name.reverse
        let text ← decodeFrom size next none rest
        .ok (d :: text)
      else decodeFrom size next (some (start, c :: name)) rest

def decodeReferences (raw : List Char) : Except ReferenceFault (List Char) :=
  decodeFrom (String.ofList raw).utf8ByteSize 0 none raw

end CodeAtlas.Markup
