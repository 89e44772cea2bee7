import CodeAtlas.Text.Blank
import CodeAtlas.Text.Case
import CodeAtlas.Text.Search
import CodeAtlas.Text.Utf8

/-!
# Multipart bodies

A body of parts between boundary lines. Of each part only its data and the name of the file that it
holds matter.
-/

namespace CodeAtlas.Http

def isTokenChar (c : Char) : Bool := c.isAlphanum || "!#$%&'*+-.^_`|~".toList.contains c

/-- The pieces between the semicolons that stand outside quotes. -/
def splitParameters (inQuotes : Bool) : List Char → List (List Char)
  | [] => [[]]
  | c :: rest =>
    if c = ';' ∧ !inQuotes then [] :: splitParameters false rest
    else
      match splitParameters (inQuotes != (c == '"')) rest with
      | [] => [[c]]
      | piece :: pieces => (c :: piece) :: pieces

def parameterValue? (cs : List Char) : Option String :=
  match cs with
  | '"' :: rest =>
    match rest.reverse with
    | '"' :: content => if content.contains '"' then none else some (String.ofList content.reverse)
    | _ => none
  | _ => if cs.all isTokenChar then some (String.ofList cs) else none

def parameter? (cs : List Char) : Option (String × String) := do
  let name := cs.takeWhile (· != '=')
  if name.isEmpty || !name.all isTokenChar || name.length = cs.length then none
  else
    let value ← parameterValue? ((cs.dropWhile (· != '=')).drop 1)
    some (String.ofList (name.map Char.toLower), value)

def boundary? (contentType : String) : Option String :=
  match splitParameters false contentType.toList with
  | kind :: parameters => do
    if String.ofList ((Text.trim kind).map Char.toLower) ≠ "multipart/form-data" then none
    else
      let given := (parameters.map Text.trim).filter (!·.isEmpty)
      let parameters ← given.mapM parameter?
      parameters.lookup "boundary"
  | [] => none

abbrev Bytes := List UInt8

def breakOn (pattern : Bytes) : Bytes → Option (Bytes × Bytes)
  | [] => if pattern.isEmpty then some ([], []) else none
  | b :: rest =>
    if pattern.isPrefixOf (b :: rest) then some ([], (b :: rest).drop pattern.length)
    else (breakOn pattern rest).map fun (before, after) => (b :: before, after)

def ascii (text : String) : Bytes := Text.encodeUtf8 text

def lineEnd : Bytes := ascii "\r\n"

def dashes : Bytes := ascii "--"

/-- A header line: its name in lower case and its value. Nothing if it is none. -/
def headerLine? (line : Bytes) : Option (String × Bytes) :=
  let name := line.takeWhile (· != 0x3a)
  let value := line.drop (name.length + 1)
  let isValueByte (b : UInt8) : Bool := b == 0x09 || (0x20 ≤ b && b != 0x7f)
  let characters := name.map fun b => Char.ofNat b.toNat
  if name.isEmpty || name.length = line.length || !characters.all isTokenChar ||
      !value.all isValueByte then none
  else some (String.ofList (characters.map Char.toLower), value)

/-- The lines of a header block. A line ends in a line feed, with or without a carriage return. -/
def headerLines : Bytes → List Bytes
  | [] => [[]]
  | b :: rest =>
    if b = 0x0a then [] :: headerLines rest
    else if b = 0x0d ∧ rest.head? = some 0x0a then headerLines rest
    else
      match headerLines rest with
      | [] => [[b]]
      | line :: lines => (b :: line) :: lines

def maxPartHeaders : Nat := 32

def partHeaders? (block : Bytes) : Option (List (String × Bytes)) :=
  let lines := headerLines block
  if maxPartHeaders < lines.length then none else lines.mapM headerLine?

/-- The value behind the first occurrence of a key that starts a word; `previous` is the byte before. -/
def attributeValue? (key : Bytes) (previous : UInt8) : Bytes → Option Bytes
  | [] => none
  | b :: rest =>
    let startsWord := previous == 0x3b || previous == 0x20 || (0x09 ≤ previous && previous ≤ 0x0d)
    if startsWord && key.isPrefixOf (b :: rest) then
      match (b :: rest).drop key.length with
      | 0x22 :: quoted =>
        if quoted.contains 0x22 then some (quoted.takeWhile (· != 0x22)) else none
      | value => some (value.takeWhile (· != 0x3b))
    else attributeValue? key b rest

def fileName? (headers : List (String × Bytes)) : Option String := do
  let disposition ← headers.lookup "content-disposition"
  let name ← attributeValue? (ascii "filename=") 0x20 disposition
  Text.decodeUtf8? name

inductive MultipartFault where
  | incomplete
  | tooLong
  deriving DecidableEq, Repr

def MultipartFault.message (_ : MultipartFault) : String :=
  "Error parsing `multipart/form-data` request"

/-- The data of the first part that holds a file, from behind a boundary. Each part takes bytes, so that
the number of bytes bounds the rounds. -/
def firstFileFrom (boundary : Bytes) : Nat → Bytes → Except MultipartFault (Option Bytes)
  | 0, _ => .error .incomplete
  | rounds + 1, bytes =>
    if dashes.isPrefixOf bytes then .ok none
    else
      let line := bytes.dropWhile fun b => b == 0x20 || b == 0x09
      if !lineEnd.isPrefixOf line then .error .incomplete
      else
        match breakOn (lineEnd ++ lineEnd) (line.drop lineEnd.length) with
        | none => .error .incomplete
        | some (block, rest) =>
          match partHeaders? block, breakOn (lineEnd ++ dashes ++ boundary) rest with
          | some headers, some (data, rest) =>
            if (fileName? headers).isSome then .ok (some data)
            else firstFileFrom boundary rounds rest
          | _, _ => .error .incomplete

def firstFile (boundary : String) (body : Bytes) : Except MultipartFault (Option Bytes) :=
  match breakOn (dashes ++ ascii boundary) body with
  | none => .error .incomplete
  | some (_, rest) => firstFileFrom (ascii boundary) (rest.length + 1) rest

/-- Of a body that is too long, and is there as a whole, no part is read. -/
def firstFileWithin (limit : Nat) (boundary : String) (body : Bytes) :
    Except MultipartFault (Option Bytes) :=
  if limit < body.length then .error .tooLong else firstFile boundary body

end CodeAtlas.Http
