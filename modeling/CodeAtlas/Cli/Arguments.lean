import CodeAtlas.Store.Graph
import CodeAtlas.Text.Number

/-!
# Command lines

Options may stand before and behind the command; what a command is given again itself counts. Anything
that does not fit is a usage error, for which no reason is kept.
-/

namespace CodeAtlas.Cli

structure OptionSpec where
  long : String
  short : Option Char
  takesValue : Bool
  deriving DecidableEq, Repr

/-- What has been read of a command line: values by the long names of their options, with none for
flags, and an option that waits for its value. -/
structure Scan where
  given : List (String × Option String)
  pending : Option String
  operands : List String
  onlyOperands : Bool
  deriving Repr

namespace Scan

def start : Scan := { given := [], pending := none, operands := [], onlyOperands := false }

def has (s : Scan) (name : String) : Bool := s.given.any (·.1 == name)

def value? (s : Scan) (name : String) : Option String := (s.given.lookup name).join

def give (s : Scan) (name : String) (value : Option String) : Option Scan :=
  if s.has name then none
  else some { s with given := s.given ++ [(name, value)], pending := none }

def await (s : Scan) (name : String) : Option Scan :=
  if s.has name then none else some { s with pending := some name }

def addLong (specs : List OptionSpec) (s : Scan) (cs : List Char) : Option Scan := do
  let name := String.ofList (cs.takeWhile (· != '='))
  let spec ← specs.find? (·.long == name)
  match cs.dropWhile (· != '='), spec.takesValue with
  | [], true => s.await name
  | [], false => s.give name none
  | _ :: value, true => s.give name (some (String.ofList value))
  | _ :: _, false => none

/-- Options by their short names. The first that takes a value takes what is left, less an equals
sign in front. -/
def addShort (specs : List OptionSpec) (s : Scan) : List Char → Option Scan
  | [] => some s
  | c :: rest => do
    let spec ← specs.find? (·.short == some c)
    if spec.takesValue then
      match rest with
      | [] => s.await spec.long
      | '=' :: value => s.give spec.long (some (String.ofList value))
      | value => s.give spec.long (some (String.ofList value))
    else
      let s ← s.give spec.long none
      if s.has "version" then some s else addShort specs s rest

/-- Reads arguments. With `stopAtOperand` the first operand ends the reading, and so does the flag
for the version. -/
def run (specs : List OptionSpec) (stopAtOperand : Bool) (s : Scan) :
    List String → Option (Scan × List String)
  | [] => if s.pending.isSome then none else some (s, [])
  | arg :: rest =>
    let step (s : Option Scan) : Option (Scan × List String) := do
      let s ← s
      if stopAtOperand && s.has "version" then some (s, [])
      else run specs stopAtOperand s rest
    let operand (_ : Unit) : Option (Scan × List String) :=
      if stopAtOperand then some ({ s with operands := [arg] }, rest)
      else step (some { s with operands := s.operands ++ [arg] })
    if s.onlyOperands then if stopAtOperand then none else operand ()
    else
      match arg.toList, s.pending with
      | ['-', '-'], none => step (some { s with onlyOperands := true })
      | '-' :: '-' :: name, none => step (s.addLong specs name)
      | '-' :: c :: more, none => step (s.addShort specs (c :: more))
      | '-' :: _ :: _, some _ => none
      | _, some name => step (s.give name (some arg))
      | _, none => operand ()

end Scan

structure GlobalOptions where
  verbose : Bool
  json : Bool
  database : Option String
  config : Option String
  deriving DecidableEq, Repr, Inhabited

inductive Command where
  | serve (port : Option UInt16)
  | ingest (path : String) (project : Option String)
  | nodes (limit : Nat)
  | edges (limit : Nat)
  | search (query : String) (limit : Option Nat)
  | module (id : String)
  | explain (id : String)
  | stats
  | init (force : Bool)
  deriving DecidableEq, Repr

inductive Invocation where
  | version (verbose : Bool)
  | command (options : GlobalOptions) (command : Command)
  deriving DecidableEq, Repr

def globalSpecs : List OptionSpec := [
  ⟨"verbose", some 'v', false⟩, ⟨"database", some 'd', true⟩, ⟨"config", some 'c', true⟩,
  ⟨"json", none, false⟩]

def versionSpec : OptionSpec := ⟨"version", some 'V', false⟩

def commandSpecs? : String → Option (List OptionSpec)
  | "serve" => some [⟨"port", some 'p', true⟩]
  | "ingest" => some [⟨"project", some 'p', true⟩]
  | "nodes" | "edges" | "search" => some [⟨"limit", some 'l', true⟩]
  | "module" | "explain" | "stats" => some []
  | "init" => some [⟨"force", some 'f', false⟩]
  | _ => none

def pathValue (value : Option String) : Option (Option String) :=
  if value = some "" then none else some value

def numberValue (bound : Nat) (value : Option String) : Option (Option Nat) :=
  match value with
  | none => some none
  | some text => (Text.readUnsigned 10 bound text.toList).toOption.map some

/-- A port; minus zero is one as well. -/
def portValue (value : Option String) : Option (Option UInt16) :=
  match value with
  | none => some none
  | some text =>
    match text.toList with
    | '-' :: digit :: more =>
      if (digit :: more).all (· == '0') then some (some 0) else none
    | cs => (Text.readUnsigned 10 65535 cs).toOption.map fun n => some n.toUInt16

def maxLimit : Nat := 0xffffffffffffffff

def commandOf (name : String) (s : Scan) : Option Command := do
  let limit ← numberValue maxLimit (s.value? "limit")
  match name, s.operands with
  | "serve", [] => (portValue (s.value? "port")).map .serve
  | "ingest", [path] => if path.isEmpty then none else some (.ingest path (s.value? "project"))
  | "nodes", [] => some (.nodes (limit.getD maxListedNodes))
  | "edges", [] => some (.edges (limit.getD maxListedEdges))
  | "search", [query] => some (.search query limit)
  | "module", [id] => some (.module id)
  | "explain", [id] => some (.explain id)
  | "stats", [] => some .stats
  | "init", [] => some (.init (s.has "force"))
  | _, _ => none

/-- The global options, where the ones behind the command count before those in front. -/
def globalsOf (outer inner : Scan) : Option GlobalOptions := do
  let outerDatabase ← pathValue (outer.value? "database")
  let innerDatabase ← pathValue (inner.value? "database")
  let outerConfig ← pathValue (outer.value? "config")
  let innerConfig ← pathValue (inner.value? "config")
  some {
    verbose := outer.has "verbose" || inner.has "verbose"
    json := outer.has "json" || inner.has "json"
    database := innerDatabase <|> outerDatabase
    config := innerConfig <|> outerConfig }

def parse (args : List String) : Option Invocation := do
  let (outer, rest) ← Scan.start.run (versionSpec :: globalSpecs) true args
  if outer.has "version" then some (.version (outer.has "verbose"))
  else
    let name ← outer.operands.head?
    let specs ← commandSpecs? name
    let (inner, _) ← Scan.start.run (globalSpecs ++ specs) false rest
    let command ← commandOf name inner
    let options ← globalsOf outer inner
    some (.command options command)

end CodeAtlas.Cli
