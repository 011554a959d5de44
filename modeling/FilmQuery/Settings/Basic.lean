import FilmQuery.Http.Model
import FilmQuery.Http.Store

/-!
# Settings

Seven values set up the program: the token of the chat bot, which may be absent, where the two
services are and how long to wait for them, which model to use, and the level of the log.
-/

namespace FilmQuery

structure Settings where
  botToken : Option Text := none
  modelHost : Text := lit "http://localhost:11434"
  modelName : Text := lit "phi3"
  modelTimeout : Binary64 := .ofInt 60
  storeUrl : Text := lit "http://localhost:4000/graphql"
  storeTimeout : Binary64 := .ofInt 30
  logLevel : Text := lit "INFO"
  deriving Repr

/-- The names of the settings. -/
inductive Setting where
  | botToken
  | modelHost
  | modelName
  | modelTimeout
  | storeUrl
  | storeTimeout
  | logLevel
  deriving DecidableEq, Repr

namespace Setting

def all : List Setting :=
  [botToken, modelHost, modelName, modelTimeout, storeUrl, storeTimeout, logLevel]

/-- The variable that a setting is read from. -/
def variableName : Setting → Text
  | botToken => lit "TELEGRAM_BOT_TOKEN"
  | modelHost => lit "OLLAMA_HOST"
  | modelName => lit "OLLAMA_MODEL"
  | modelTimeout => lit "LLM_TIMEOUT_S"
  | storeUrl => lit "GRAPHQL_URL"
  | storeTimeout => lit "GRAPHQL_TIMEOUT_S"
  | logLevel => lit "LOG_LEVEL"

end Setting

namespace Settings

/-- The language model's service that the settings describe. -/
def modelService (s : Settings) : ModelService := ⟨s.modelHost, s.modelName, .real s.modelTimeout⟩

/-- The movie store that the settings describe. -/
def movieStore (s : Settings) : MovieStore := ⟨s.storeUrl, .real s.storeTimeout⟩

end Settings

end FilmQuery
