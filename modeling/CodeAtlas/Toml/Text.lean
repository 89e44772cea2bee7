import CodeAtlas.Text.Number

/-!
# TOML strings

Reading the four kinds of strings from behind their opening quotes. Line ends are line feeds only.
-/

namespace CodeAtlas.Toml

def isSpace (c : Char) : Bool := c == ' ' || c == '\t'

def isPlain (c : Char) : Bool := c == '\t' || (' ' ≤ c && c != '\x7f')

def simpleEscape? : Char → Option Char
  | 'b' => some '\x08'
  | 't' => some '\t'
  | 'n' => some '\n'
  | 'f' => some '\x0c'
  | 'r' => some '\r'
  | '"' => some '"'
  | '\\' => some '\\'
  | _ => none

inductive EscapeState where
  | plain
  | escaped
  | code (missing value : Nat)
  /-- Behind the backslash at the end of a line, which joins the next text to this one. -/
  | joining (sawLineEnd : Bool)
  deriving DecidableEq, Repr

/-- The quotes that three quotes close, up to two of which belong to the text. -/
def closingQuotes (quote : Char) (rest : List Char) : List Char × List Char :=
  let extra := min 2 (rest.takeWhile (· == quote)).length
  (List.replicate extra quote, rest.drop extra)

def readBasic (isMultiline : Bool) (state : EscapeState) :
    List Char → Option (List Char × List Char)
  | [] => none
  | c :: rest =>
    let add (x : Char) (r : Option (List Char × List Char)) : Option (List Char × List Char) :=
      r.map fun (text, rest) => (x :: text, rest)
    let plain (_ : Unit) : Option (List Char × List Char) :=
      if c = '\\' then readBasic isMultiline .escaped rest
      else if c = '"' then
        if isMultiline then
          match rest with
          | '"' :: '"' :: more => some (closingQuotes '"' more)
          | _ => add c (readBasic isMultiline .plain rest)
        else some ([], rest)
      else if isPlain c || (isMultiline && c == '\n') then
        add c (readBasic isMultiline .plain rest)
      else none
    match state with
    | .plain => plain ()
    | .escaped =>
      match simpleEscape? c with
      | some x => add x (readBasic isMultiline .plain rest)
      | none =>
        if c = 'u' then readBasic isMultiline (.code 4 0) rest
        else if c = 'U' then readBasic isMultiline (.code 8 0) rest
        else if isMultiline && isSpace c then readBasic isMultiline (.joining false) rest
        else if isMultiline && c == '\n' then readBasic isMultiline (.joining true) rest
        else none
    | .code missing value =>
      match Text.digitValue? 16 c with
      | none => none
      | some d =>
        let value := 16 * value + d
        if 1 < missing then readBasic isMultiline (.code (missing - 1) value) rest
        else if value.isValidChar then add (Char.ofNat value) (readBasic isMultiline .plain rest)
        else none
    | .joining sawLineEnd =>
      if isSpace c then readBasic isMultiline (.joining sawLineEnd) rest
      else if c = '\n' then readBasic isMultiline (.joining true) rest
      else if sawLineEnd then plain ()
      else none

def readLiteral (isMultiline : Bool) : List Char → Option (List Char × List Char)
  | [] => none
  | c :: rest =>
    let add (r : Option (List Char × List Char)) : Option (List Char × List Char) :=
      r.map fun (text, rest) => (c :: text, rest)
    if c = '\'' then
      if isMultiline then
        match rest with
        | '\'' :: '\'' :: more => some (closingQuotes '\'' more)
        | _ => add (readLiteral isMultiline rest)
      else some ([], rest)
    else if isPlain c || (isMultiline && c == '\n') then add (readLiteral isMultiline rest)
    else none

def dropFirstLineEnd : List Char → List Char
  | '\n' :: rest => rest
  | cs => cs

def readString : List Char → Option (List Char × List Char)
  | '"' :: '"' :: '"' :: rest => readBasic true .plain (dropFirstLineEnd rest)
  | '"' :: rest => readBasic false .plain rest
  | '\'' :: '\'' :: '\'' :: rest => readLiteral true (dropFirstLineEnd rest)
  | '\'' :: rest => readLiteral false rest
  | _ => none

end CodeAtlas.Toml
