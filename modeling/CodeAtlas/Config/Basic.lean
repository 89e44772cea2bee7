import CodeAtlas.Error
import CodeAtlas.Text.Number
import CodeAtlas.Text.Quoted
import CodeAtlas.Text.Utf8
import CodeAtlas.Toml.Document

/-!
# Configuration files

What a configuration file may set, and reading it. Unknown keys are passed over; a known one with a
value of another type makes the whole file malformed.
-/

namespace CodeAtlas

structure LlmConfig where
  apiUrl : Option String
  model : Option String
  deriving DecidableEq, Repr, Inhabited

structure Config where
  database : Option String
  port : Option UInt16
  llm : Option LlmConfig
  deriving DecidableEq, Repr, Inhabited

inductive ConfigFault where
  | file (fault : FileFault)
  | malformed
  | alreadyExists (path : String)
  | badPort (raw : String) (why : Text.NumberFault)
  deriving DecidableEq, Repr

def ConfigFault.message : ConfigFault → String
  | file fault => fault.message
  | malformed => "TOML parse error"
  | alreadyExists path =>
    "config already exists at " ++ path ++ " (use --force to overwrite)"
  | badPort raw why => "invalid PORT " ++ Text.quoted raw ++ ": " ++ why.message

namespace Config

def empty : Config := { database := none, port := none, llm := none }

def defaultPath : String := "tracelens.toml"

def defaultDatabase : String := ".tracelens/tracelens.db"

def defaultPort : UInt16 := 8080

def defaultApiUrl : String := "https://api.openai.com/v1/chat/completions"

def defaultModel : String := "gpt-4o-mini"

def starter : Config :=
  { database := some defaultDatabase
    port := some defaultPort
    llm := some { apiUrl := some defaultApiUrl, model := some defaultModel } }

def stringEntry? (key : String) (entries : Toml.Entries) : Option (Option String) :=
  match entries.lookup key with
  | none => some none
  | some (.string text) => some (some text)
  | some _ => none

def portEntry? (entries : Toml.Entries) : Option (Option UInt16) :=
  match entries.lookup "port" with
  | none => some none
  | some (.integer n) => if 0 ≤ n ∧ n < 65536 then some (some n.toNat.toUInt16) else none
  | some _ => none

/-- The settings of the language model: a table, or an array of its two values in order. A date has
neither of them. -/
def llmEntry? (entries : Toml.Entries) : Option (Option LlmConfig) :=
  match entries.lookup "llm" with
  | none => some none
  | some (.table _ inner) => do
    let apiUrl ← stringEntry? "api_url" inner
    let model ← stringEntry? "model" inner
    some (some { apiUrl, model })
  | some (.array (.string apiUrl :: .string model :: _)) =>
    some (some { apiUrl := some apiUrl, model := some model })
  | some .date => some (some { apiUrl := none, model := none })
  | some _ => none

def ofEntries? (entries : Toml.Entries) : Option Config := do
  let database ← stringEntry? "database" entries
  let port ← portEntry? entries
  let llm ← llmEntry? entries
  some { database, port, llm }

def ofText (text : String) : Except ConfigFault Config :=
  match (Toml.ofText? text).bind ofEntries? with
  | some config => .ok config
  | none => .error .malformed

def ofBytes (bytes : List UInt8) : Except ConfigFault Config :=
  match Text.decodeUtf8? bytes with
  | some text => ofText text
  | none => .error (.file .notUtf8)

end Config

end CodeAtlas
