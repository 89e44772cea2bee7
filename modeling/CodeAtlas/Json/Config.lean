import CodeAtlas.Config.Basic
import CodeAtlas.Json.Record

/-!
# Configurations in JSON
-/

namespace CodeAtlas.Json

def decodeLlm : Decoder LlmConfig := fun value => do
  let entries ← entriesOf "LlmConfig" [
    required "api_url" (nullable text), required "model" (nullable text)] value
  let apiUrl ← takeOptional entries "api_url" text
  let model ← takeOptional entries "model" text
  .ok { apiUrl, model }

def port : Decoder UInt16 := fun value => (natUpTo 65535 "u16" value).map Nat.toUInt16

def decodeConfig : Decoder Config := fun value => do
  let entries ← entriesOf "TraceLensConfig" [
    required "database" (nullable text), required "port" (nullable port),
    omissible "llm" (nullable decodeLlm)] value
  let database ← takeOptional entries "database" text
  let port ← takeOptional entries "port" port
  let llm ← takeOptional entries "llm" decodeLlm
  .ok { database, port, llm }

def ofLlm (c : LlmConfig) : Json :=
  .object [("api_url", .optional c.apiUrl), ("model", .optional c.model)]

def ofConfig (c : Config) : Json :=
  .object (
    [("database", .optional c.database),
      ("port", match c.port with
        | some port => .nat port.toNat
        | none => .null)] ++
    match c.llm with
    | some llm => [("llm", ofLlm llm)]
    | none => [])

end CodeAtlas.Json
