import CodeAtlas.Error
import CodeAtlas.Query.Explanation
import CodeAtlas.Text.Blank

/-!
# Explainers

Who explains a module: a summarizer that answers a prompt, or without one the graph itself.
-/

namespace CodeAtlas

abbrev Summarizer := String → Except Error String

/-- A chat service that cannot be asked, because its address is not one that requests go to. -/
def Summarizer.unreachable : Summarizer := fun _ => .error .request

structure LlmSettings where
  apiUrl : String
  apiKey : Option String
  model : String
  deriving DecidableEq, Repr, Inhabited

def LlmSettings.isEnabled (s : LlmSettings) : Bool := s.apiKey.any fun key => !Text.isBlankText key

structure Explainer where
  summarizer : Option Summarizer

namespace Explainer

def disabled : Explainer := { summarizer := none }

def withSummarizer (s : Summarizer) : Explainer := { summarizer := some s }

def ofSettings (settings : LlmSettings) (service : LlmSettings → Summarizer) : Explainer :=
  if settings.isEnabled then withSummarizer (service settings) else disabled

def isEnabled (e : Explainer) : Bool := e.summarizer.isSome

def explain (e : Explainer) (detail : ModuleDetail) : Except Error String :=
  match e.summarizer with
  | some summarize => summarize detail.prompt
  | none => .ok detail.localExplanation

end Explainer

end CodeAtlas
