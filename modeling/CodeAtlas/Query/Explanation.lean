import CodeAtlas.Store.Detail

/-!
# Texts about a module

The prompt that asks a language model to explain a module, and the explanation that is put together
from the graph alone when there is none to ask.
-/

namespace CodeAtlas

/-- With more edges than this in one direction a module is called a hub. -/
def hubThreshold : Nat := 10

namespace ModuleDetail

def commaList (items : List String) : String := String.intercalate ", " items

def targetNames (d : ModuleDetail) : List String := d.outgoing.map (·.targetName)

def sourceNames (d : ModuleDetail) : List String := d.incoming.map (·.sourceName)

def prompt (d : ModuleDetail) : String :=
  "You are a senior .NET architect. Explain the purpose of this C# module to a new teammate.\n" ++
  "Include: responsibilities, key dependencies, potential risks, and quick refactor ideas.\n" ++
  "Module:\n" ++
  "Name: " ++ d.name ++ "\n" ++
  "Namespace: " ++ d.nspace ++ "\n" ++
  "Kind: " ++ d.kind.label ++ "\n" ++
  "Direct Imports: " ++ commaList d.imports ++ "\n" ++
  "Outgoing: " ++ commaList d.targetNames ++ "\n" ++
  "Incoming: " ++ commaList d.sourceNames

def fanOut (d : ModuleDetail) : Nat := d.outgoing.length

def fanIn (d : ModuleDetail) : Nat := d.incoming.length

def cycleNames (d : ModuleDetail) : List String :=
  (d.outgoing.filter fun o => d.incoming.any fun i => i.nodeId == o.nodeId).map (·.targetName)

def packageNote (p : Package) : String := p.name ++ " " ++ p.version ++ " (" ++ p.risk ++ ")"

def highRiskNotes (d : ModuleDetail) : List String :=
  (d.packageRisks.filter (·.isHighRisk)).map packageNote

def remarkIf (condition : Bool) (remark : String) : List String :=
  if condition then [remark] else []

def risks (d : ModuleDetail) : List String :=
  ["fan-out " ++ toString d.fanOut ++ ", fan-in " ++ toString d.fanIn] ++
  remarkIf (hubThreshold < d.fanOut) "high fan-out, many reasons to change" ++
  remarkIf (hubThreshold < d.fanIn) "high fan-in, changes ripple widely" ++
  remarkIf (!d.cycleNames.isEmpty) ("direct cycle with " ++ commaList d.cycleNames) ++
  remarkIf (!d.highRiskNotes.isEmpty)
    ("high-risk packages in the store: " ++ commaList d.highRiskNotes)

def suggestions (d : ModuleDetail) : List String :=
  remarkIf (!d.cycleNames.isEmpty) "break the cycle behind an interface" ++
  remarkIf (hubThreshold < d.fanOut) "split responsibilities into smaller types" ++
  remarkIf (hubThreshold < d.fanIn) "extract an interface to stabilize dependents" ++
  ["add tests around the public surface"]

def listOrNone (items : List String) : String :=
  if items.isEmpty then "none" else commaList items

def localExplanation (d : ModuleDetail) : String :=
  "LLM disabled: set LLM_API_KEY to enable real explanations.\n\n" ++
  "- Purpose: " ++ d.kind.label ++ " " ++ d.name ++ " in namespace " ++ d.nspace ++ ".\n" ++
  "- Dependencies: " ++ listOrNone d.targetNames ++ "\n" ++
  "- Dependents: " ++ listOrNone d.sourceNames ++ "\n" ++
  "- Risks: " ++ String.intercalate "; " d.risks ++ ".\n" ++
  "- Suggestions: " ++ String.intercalate "; " d.suggestions ++ "."

end ModuleDetail

end CodeAtlas
