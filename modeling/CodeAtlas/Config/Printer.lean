import CodeAtlas.Config.Basic

/-!
# Writing configuration files

The form of each string is the first of those that can hold it and is allowed: plain quotes, then
apostrophes, then three quotes, then three apostrophes.
-/

namespace CodeAtlas.Config

def isControl (c : Char) : Bool := (c < ' ' && c != '\t' && c != '\n') || c == '\x7f'

def hasThree (quote : Char) : List Char → Bool
  | a :: b :: c :: rest =>
    (a == quote && b == quote && c == quote) || hasThree quote (b :: c :: rest)
  | _ => false

inductive StringForm where
  | basic
  | literal
  | basicLines
  | literalLines
  deriving DecidableEq, Repr

def StringForm.choose (cs : List Char) : StringForm :=
  let control := cs.any isControl
  let lines := cs.contains '\n'
  let backslash := cs.contains '\\'
  if !control && !backslash && !lines && !cs.contains '"' then .basic
  else if !control && !lines && !cs.contains '\'' then .literal
  else if !control && !backslash && !hasThree '"' cs then .basicLines
  else if !control && !hasThree '\'' cs then .literalLines
  else if lines then .basicLines
  else .basic

def upperHexDigit (n : Nat) : Char := Nat.digitChar n |>.toUpper

def escapeControl (c : Char) : List Char :=
  match c with
  | '\x08' => ['\\', 'b']
  | '\t' => ['\\', 't']
  | '\x0c' => ['\\', 'f']
  | '\r' => ['\\', 'r']
  | '\\' => ['\\', '\\']
  | _ =>
    if isControl c then
      ['\\', 'u', '0', '0', upperHexDigit (c.toNat / 16), upperHexDigit (c.toNat % 16)]
    else [c]

def escapeBasic (c : Char) : List Char :=
  if c = '"' then ['\\', '"'] else if c = '\n' then ['\\', 'n'] else escapeControl c

/-- Text between three quotes, where each third quote in a row is escaped; `run` counts the quotes
just written. -/
def escapeLines (run : Nat) : List Char → List Char
  | [] => []
  | c :: rest =>
    if c = '"' then
      if run = 2 then '\\' :: '"' :: escapeLines 0 rest else '"' :: escapeLines (run + 1) rest
    else if c = '\n' then '\n' :: escapeLines 0 rest
    else escapeControl c ++ escapeLines 0 rest

def between (quotes body : List Char) : List Char := quotes ++ body ++ quotes

def openLines (cs : List Char) : List Char := if cs.contains '\n' then ['\n'] else []

def stringForm (text : String) : String :=
  let cs := text.toList
  String.ofList <|
    match StringForm.choose cs with
    | .basic => between ['"'] (cs.flatMap escapeBasic)
    | .literal => between ['\''] cs
    | .basicLines => between ['"', '"', '"'] (openLines cs ++ escapeLines 0 cs)
    | .literalLines => between ['\'', '\'', '\''] (openLines cs ++ cs)

def stringLine (key : String) : Option String → String
  | some text => key ++ " = " ++ stringForm text ++ "\n"
  | none => ""

def portLine : Option UInt16 → String
  | some port => "port = " ++ toString port.toNat ++ "\n"
  | none => ""

def render (config : Config) : String :=
  let top := stringLine "database" config.database ++ portLine config.port
  match config.llm with
  | none => top
  | some llm =>
    top ++ (if top.isEmpty then "" else "\n") ++ "[llm]\n" ++
      stringLine "api_url" llm.apiUrl ++ stringLine "model" llm.model

end CodeAtlas.Config
