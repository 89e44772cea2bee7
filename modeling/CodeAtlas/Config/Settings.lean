import CodeAtlas.Config.Basic
import CodeAtlas.Query.Explainer
import CodeAtlas.Text.Blank

/-!
# Settings

What is in effect: the command line comes first, then the environment, then the configuration file, then
the defaults. A blank value in the environment counts as none.
-/

namespace CodeAtlas

structure Overrides where
  database : Option String
  port : Option UInt16
  deriving DecidableEq, Repr, Inhabited

structure Settings where
  database : String
  port : UInt16
  llm : LlmSettings
  deriving DecidableEq, Repr, Inhabited

namespace Settings

abbrev Environment := List (String × String)

def environmentKeys : List String :=
  ["TRACELENS_DATABASE", "PORT", "LLM_API_URL", "LLM_API_KEY", "LLM_MODEL"]

def setting? (env : Environment) (key : String) : Option String :=
  (env.lookup key).filter fun value => !Text.isBlankText value

def readPort (raw : String) : Except ConfigFault UInt16 :=
  match Text.readUnsigned 10 65535 (Text.trim raw.toList) with
  | .ok n => .ok n.toUInt16
  | .error why => .error (.badPort raw why)

def resolvePort (given : Option UInt16) (env : Environment) (config : Config) :
    Except ConfigFault UInt16 :=
  match given, setting? env "PORT" with
  | some port, _ => .ok port
  | none, some raw => readPort raw
  | none, none => .ok (config.port.getD Config.defaultPort)

def resolveLlm (env : Environment) (config : Option LlmConfig) : LlmSettings :=
  { apiUrl :=
      (setting? env "LLM_API_URL" <|> config.bind (·.apiUrl)).getD Config.defaultApiUrl
    apiKey := setting? env "LLM_API_KEY"
    model := (setting? env "LLM_MODEL" <|> config.bind (·.model)).getD Config.defaultModel }

def resolve (config : Option Config) (overrides : Overrides) (env : Environment) :
    Except ConfigFault Settings := do
  let config := config.getD .empty
  let port ← resolvePort overrides.port env config
  let database :=
    overrides.database <|> setting? env "TRACELENS_DATABASE" <|> config.database
  .ok {
    database := database.getD Config.defaultDatabase
    port
    llm := resolveLlm env config.llm }

end Settings

end CodeAtlas
