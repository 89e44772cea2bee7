import CodeAtlas.Toml.Scalar
import CodeAtlas.Toml.Text

/-!
# TOML documents

A document is read into statements, headers and assignments, which then build its tables in order.
-/

namespace CodeAtlas.Toml

def maxDepth : Nat := 79

inductive Statement where
  | header (path : List String)
  | rowHeader (path : List String)
  | assignment (path : List String) (value : Toml)
  deriving Repr

def skipSpaces (cs : List Char) : List Char := cs.dropWhile isSpace

def isCommentChar (c : Char) : Bool := c == '\t' || ' ' ≤ c

def skipLines (inComment : Bool) : List Char → Option (List Char)
  | [] => some []
  | c :: rest =>
    if c = '\n' then skipLines false rest
    else if inComment then if isCommentChar c then skipLines true rest else none
    else if isSpace c then skipLines false rest
    else if c = '#' then skipLines true rest
    else some (c :: rest)

def endLine (cs : List Char) : Option (List Char) :=
  match skipSpaces cs with
  | [] => some []
  | '\n' :: rest => some rest
  | '#' :: rest =>
    match rest.dropWhile isCommentChar with
    | [] => some []
    | '\n' :: rest => some rest
    | _ => none
  | _ => none

def isBareKeyChar (c : Char) : Bool := c.isAlphanum || c == '_' || c == '-'

def readSimpleKey (cs : List Char) : Option (String × List Char) :=
  match cs with
  | '"' :: rest => (readBasic false .plain rest).map fun (key, rest) => (String.ofList key, rest)
  | '\'' :: rest => (readLiteral false rest).map fun (key, rest) => (String.ofList key, rest)
  | _ =>
    match cs.span isBareKeyChar with
    | ([], _) => none
    | (key, rest) => some (String.ofList key, rest)

def readKey : Nat → List Char → Option (List String × List Char)
  | 0, _ => none
  | parts + 1, cs => do
    let (key, rest) ← readSimpleKey (skipSpaces cs)
    match skipSpaces rest with
    | '.' :: rest => do
      let (keys, rest) ← readKey parts rest
      some (key :: keys, rest)
    | rest => some ([key], rest)

mutual

/-- A value; `depth` more levels may open. Every second round takes a character at least, so that
twice their number bounds the rounds. -/
def readValue : Nat → Nat → List Char → Option (Toml × List Char)
  | 0, _, _ => none
  | rounds + 1, depth, cs =>
    match cs with
    | '[' :: rest =>
      match depth with
      | 0 => none
      | depth + 1 => (skipLines false rest).bind (readItems rounds depth [])
    | '{' :: rest =>
      match depth with
      | 0 => none
      | depth + 1 =>
        match skipSpaces rest with
        | '}' :: rest => some (.table .inline [], rest)
        | rest => readPairs rounds depth [] rest
    | '"' :: _ | '\'' :: _ => (readString cs).map fun (text, rest) => (.string (String.ofList text), rest)
    | _ =>
      let (word, rest) := takeWord cs
      (scalar? word).map (·, rest)

def readItems : Nat → Nat → List Toml → List Char → Option (Toml × List Char)
  | 0, _, _, _ => none
  | rounds + 1, depth, items, cs =>
    match cs with
    | ']' :: rest => some (.array items.reverse, rest)
    | _ => do
      let (item, rest) ← readValue rounds depth cs
      match ← skipLines false rest with
      | ',' :: rest => (skipLines false rest).bind (readItems rounds depth (item :: items))
      | ']' :: rest => some (.array (item :: items).reverse, rest)
      | _ => none

def readPairs : Nat → Nat → Entries → List Char → Option (Toml × List Char)
  | 0, _, _, _ => none
  | rounds + 1, depth, entries, cs => do
    let (path, rest) ← readKey maxDepth cs
    match rest with
    | '=' :: rest => do
      let (value, rest) ← readValue rounds depth (skipSpaces rest)
      let entries ← assign value true path entries
      match skipSpaces rest with
      | ',' :: rest => readPairs rounds depth entries rest
      | '}' :: rest => some (.table .inline entries, rest)
      | _ => none
    | _ => none

end

def readStatement (cs : List Char) : Option (Statement × List Char) :=
  match cs with
  | '[' :: '[' :: rest => do
    let (path, rest) ← readKey maxDepth rest
    match rest with
    | ']' :: ']' :: rest => some (.rowHeader path, rest)
    | _ => none
  | '[' :: rest => do
    let (path, rest) ← readKey maxDepth rest
    match rest with
    | ']' :: rest => some (.header path, rest)
    | _ => none
  | _ => do
    let (path, rest) ← readKey maxDepth cs
    match rest with
    | '=' :: rest =>
      let rest := skipSpaces rest
      let (value, rest) ← readValue (2 * rest.length + 2) maxDepth rest
      some (.assignment path value, rest)
    | _ => none

/-- The statements of a document. Each line takes a character at least, so that their number bounds
the rounds. -/
def readStatements : Nat → List Char → Option (List Statement)
  | 0, cs => if cs.isEmpty then some [] else none
  | rounds + 1, cs =>
    match skipSpaces cs with
    | [] => some []
    | '\n' :: rest => readStatements rounds rest
    | '#' :: rest => (endLine ('#' :: rest)).bind (readStatements rounds)
    | cs => do
      let (statement, rest) ← readStatement cs
      let rest ← endLine rest
      let statements ← readStatements rounds rest
      some (statement :: statements)

/-- A document while it is built: its root, and the path of the table that assignments go to. -/
structure Building where
  root : Entries
  current : List String
  deriving Repr

def Building.step (b : Building) : Statement → Option Building
  | .header path => do
    let root ← alterTable (openTable (path.getLastD "")) path.dropLast b.root
    some { root, current := path }
  | .rowHeader path => do
    let root ← alterTable (openRow (path.getLastD "")) path.dropLast b.root
    some { root, current := path }
  | .assignment path value => do
    let root ← alterTable (assign value true path) b.current b.root
    some { b with root }

def joinLineEnds : List Char → List Char
  | '\r' :: '\n' :: rest => '\n' :: joinLineEnds rest
  | c :: rest => c :: joinLineEnds rest
  | [] => []

def ofText? (text : String) : Option Entries := do
  let cs := joinLineEnds text.toList
  let cs := if cs.head? = some '\ufeff' then cs.tail else cs
  let statements ← readStatements (cs.length + 1) cs
  let built ← statements.foldlM Building.step { root := [], current := [] }
  some built.root

end CodeAtlas.Toml
