import CodeAtlas.CSharp.Collect
import CodeAtlas.CSharp.Outline
import CodeAtlas.Text.Case

/-!
# Source parsers

A registry is a list of parsers. The first one that takes the extension of a path reads the file.
-/

namespace CodeAtlas

structure SourceParser where
  language : String
  extensions : List String
  parse : (path text : String) → Except Error ParsedSource

/-- The last component of a path; slashes at the end, and dots between them, are passed over. -/
def lastComponent (path : String) : List Char :=
  strip path.toList.reverse |>.takeWhile (· != '/') |>.reverse
where
  strip : List Char → List Char
    | '/' :: rest => strip rest
    | '.' :: '/' :: rest => strip ('/' :: rest)
    | reversed => reversed
  termination_by reversed => reversed.length

/-- The text after the last dot of a path's last component, unless that dot begins the component. -/
def extension? (path : String) : Option String :=
  let name := lastComponent path
  if name = ['.', '.'] then none
  else
    match name.reverse.dropWhile (· != '.') with
    | [] | [_] => none
    | _ => some (String.ofList (name.reverse.takeWhile (· != '.')).reverse)

namespace SourceParser

def handles (p : SourceParser) (path : String) : Bool :=
  match extension? path with
  | some ext => p.extensions.contains (String.ofList (ext.toList.map Char.toLower))
  | none => false

def csharp (grammar : CSharp.Grammar) : SourceParser :=
  { language := "C#", extensions := ["cs"], parse := CSharp.parse grammar }

end SourceParser

abbrev Registry := List SourceParser

namespace Registry

def builtIn (grammar : CSharp.Grammar) : Registry := [.csharp grammar]

def standard : Registry := builtIn CSharp.Outline.grammar

def parserFor? (registry : Registry) (path : String) : Option SourceParser :=
  registry.find? (·.handles path)

def isSource (registry : Registry) (path : String) : Bool := (registry.parserFor? path).isSome

def parse (registry : Registry) (path text : String) : Except Error (Option ParsedSource) :=
  match registry.parserFor? path with
  | some parser => (parser.parse path text).map some
  | none => .ok none

end Registry

end CodeAtlas
