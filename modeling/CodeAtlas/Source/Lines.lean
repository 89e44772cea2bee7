import CodeAtlas.Source.Registry
import CodeAtlas.Text.Search

/-!
# Line notation

A plain notation for what a source says, one item a line: `use name` imports a namespace, and
`kind namespace name` declares a type, with a dash for no namespace. Other lines say nothing, save that
`fail` refuses the whole text.
-/

namespace CodeAtlas.LineNotation

open Text

def lines (text : String) : List (List Char) :=
  (splitAt '\n' text.toList).map fun line =>
    match line.reverse with
    | '\r' :: rest => rest.reverse
    | _ => line

def readLine (out : ParsedSource) (line : List Char) : Except Error ParsedSource :=
  match (splitAt ' ' line).map String.ofList with
  | ["use", name] => .ok (out.addImport name)
  | [kind, nspace, name] =>
    match ModuleKind.ofText? kind with
    | some kind =>
      .ok (out.addDeclaration { kind, nspace := if nspace = "-" then none else some nspace, name })
    | none => .error (.invalidKind kind)
  | ["fail"] => .error (.parse "fail")
  | _ => .ok out

def parse (text : String) : Except Error ParsedSource :=
  (lines text).foldlM readLine .empty

def parser (language : String) (extensions : List String) : SourceParser :=
  { language, extensions, parse := fun _ text => parse text }

end CodeAtlas.LineNotation

namespace CodeAtlas.SourceParser

def refusing (language : String) (extensions : List String) (error : String → Error) :
    SourceParser :=
  { language, extensions, parse := fun path _ => .error (error path) }

end CodeAtlas.SourceParser
