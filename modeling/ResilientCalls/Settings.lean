import ResilientCalls.Breaker.Config
import ResilientCalls.Provider.Adapter
import ResilientCalls.Retry.Policy
import ResilientCalls.Schema

namespace ResilientCalls

open Schema

/-- What is needed to reach a provider, as it is given. -/
structure Connection where
  provider : Json
  geminiApiKey : Json
  geminiModel : Json
  openaiApiKey : Json
  openaiModel : Json
  openaiBaseUrl : Json
  timeoutMs : Json

namespace Connection

def keyRequired (setting provider : String) : Failure :=
  .configuration (setting ++ " is required for the " ++ provider ++ " provider") (.text setting)

/-- Fields taken as they are, without a check; a field that is missing has its default. -/
def assumed (fields : Arguments) : Connection where
  provider := fields.valueOr "provider" (.text (Provider.Family.name .gemini))
  geminiApiKey := fields.value "gemini_api_key"
  geminiModel := fields.valueOr "gemini_model" (.text (Provider.Family.defaultModel .gemini))
  openaiApiKey := fields.value "openai_api_key"
  openaiModel := fields.valueOr "openai_model" (.text (Provider.Family.defaultModel .gpt))
  openaiBaseUrl := fields.valueOr "openai_base_url" (.text (Provider.Family.defaultBaseUrl .gpt))
  timeoutMs := fields.valueOr "request_timeout_ms" (.int Provider.defaultTimeoutMs)

def family? (c : Connection) : Option Provider.Family :=
  match c.provider with
  | .text name => [Provider.Family.gemini, .gpt].find? fun f => f.name = name
  | _ => none

/-- The adapter of the chosen provider. -/
def adapter (c : Connection) : Except Failure Provider.Adapter :=
  match c.family? with
  | some .gemini =>
    if c.geminiApiKey.holds then
      Provider.Adapter.make .gemini c.geminiApiKey c.geminiModel c.timeoutMs
        (.text (Provider.Family.defaultBaseUrl .gemini))
    else .error (keyRequired "GEMINI_API_KEY" "gemini")
  | some .gpt =>
    if c.openaiApiKey.holds then
      Provider.Adapter.make .gpt c.openaiApiKey c.openaiModel c.timeoutMs c.openaiBaseUrl
    else .error (keyRequired "OPENAI_API_KEY" "gpt")
  | none =>
    .error (.configuration
      ("Unsupported provider '" ++ c.provider.plain ++ "'; expected one of ['gemini', 'gpt']")
      (.text "TRANSLATION_PROVIDER"))

end Connection

/-- The settings that all breakers share. -/
structure BreakerSettings where
  enabled : Bool
  threshold : IntFrom 1
  recoveryMs : IntFrom 0
  probes : IntFrom 1

namespace BreakerSettings

def same (name : String) : Name := ⟨name, name⟩

def default : BreakerSettings :=
  ⟨true, ⟨Breaker.Config.defaultThreshold, by decide⟩,
    ⟨Breaker.Config.defaultRecoveryMs, by decide⟩, ⟨Breaker.Config.defaultProbes, by decide⟩⟩

def ofFields (fields : List (String × Json)) : Checked BreakerSettings :=
  (both (both (both
      (optional (same "enabled") fields default.enabled bool)
      (optional (same "failure_threshold") fields default.threshold (intFrom 1)))
    (optional (same "recovery_timeout_ms") fields default.recoveryMs (intFrom 0)))
    (optional (same "half_open_max_calls") fields default.probes (intFrom 1))).map
  fun p => ⟨p.1.1.1, p.1.1.2, p.1.2, p.2⟩

def ofJson : Json → Checked BreakerSettings := record "CircuitBreakerSettings" ofFields

def fields (s : BreakerSettings) : List (String × Json) :=
  [("enabled", .bool s.enabled), ("failure_threshold", .int s.threshold.val),
    ("recovery_timeout_ms", .int s.recoveryMs.val), ("half_open_max_calls", .int s.probes.val)]

/-- The configuration of the breaker of a key. -/
def forKey (s : BreakerSettings) (key : Json) : Except Failure Breaker.Config :=
  Breaker.Config.make key (.bool s.enabled) (.whole s.threshold.val) (.whole s.recoveryMs.val)
    (.whole s.probes.val)

end BreakerSettings

/-- Settings that were checked as a whole, so that everything built from them can be built. -/
structure Settings where
  provider : Provider.Family
  geminiApiKey : Option String
  geminiModel : String
  openaiApiKey : Option String
  openaiModel : String
  openaiBaseUrl : String
  timeoutMs : IntFrom 1
  retryAttempts : IntFrom 1
  breaker : BreakerSettings
  faultFlags : List String
  metricsBackend : String
  metricsNamespace : String

namespace Settings

def families : List (String × Provider.Family) :=
  [(Provider.Family.name .gemini, .gemini), (Provider.Family.name .gpt, .gpt)]

def backends : List (String × String) :=
  ["memory", "log", "cloudwatch"].map fun name => (name, name)

def same (name : String) : Name := ⟨name, name⟩

def optionalText (name : String) (fields : List (String × Json)) (default : String) :
    Checked String :=
  optional (same name) fields default text

def optionalKey (name : String) (fields : List (String × Json)) : Checked (Option String) :=
  optional (same name) fields none (nullable text)

def ofFields (fields : List (String × Json)) : Checked Settings :=
  let access := both (both (both
      (optional (same "provider") fields .gemini (choice families))
      (optionalKey "gemini_api_key" fields))
    (optionalText "gemini_model" fields (Provider.Family.defaultModel .gemini)))
    (both (both
      (optionalKey "openai_api_key" fields)
      (optionalText "openai_model" fields (Provider.Family.defaultModel .gpt)))
      (optionalText "openai_base_url" fields (Provider.Family.defaultBaseUrl .gpt)))
  let limits := both (both
      (optional (same "request_timeout_ms") fields ⟨Provider.defaultTimeoutMs, by decide⟩
        positiveInt)
      (optional (same "retry_attempts") fields ⟨Retry.Policy.defaultAttempts, by decide⟩
        (intFrom 1)))
    (optional (same "circuit_breaker") fields .default BreakerSettings.ofJson)
  let reporting := both (both
      (optional (same "fault_flags") fields [] (tuple text))
      (optional (same "metrics_backend") fields "log" (choice backends)))
    (optionalText "metrics_namespace" fields "AICore")
  (both (both access limits) reporting).map fun
      (((((p, gk), gm), ((ok, om), ob)), ((timeout, attempts), breaker)), ((flags, backend), ns)) =>
    { provider := p, geminiApiKey := gk, geminiModel := gm, openaiApiKey := ok, openaiModel := om,
      openaiBaseUrl := ob, timeoutMs := timeout, retryAttempts := attempts, breaker,
      faultFlags := flags, metricsBackend := backend, metricsNamespace := ns }

def ofJson : Json → Checked Settings := record "AIServiceConfig" ofFields

def fields (s : Settings) : List (String × Json) :=
  [("provider", .text s.provider.name),
    ("gemini_api_key", Json.ofOption .text s.geminiApiKey), ("gemini_model", .text s.geminiModel),
    ("openai_api_key", Json.ofOption .text s.openaiApiKey), ("openai_model", .text s.openaiModel),
    ("openai_base_url", .text s.openaiBaseUrl), ("request_timeout_ms", .int s.timeoutMs.val),
    ("retry_attempts", .int s.retryAttempts.val), ("circuit_breaker", .object s.breaker.fields),
    ("fault_flags", .list (s.faultFlags.map .text)), ("metrics_backend", .text s.metricsBackend),
    ("metrics_namespace", .text s.metricsNamespace)]

def connection (s : Settings) : Connection where
  provider := .text s.provider.name
  geminiApiKey := Json.ofOption .text s.geminiApiKey
  geminiModel := .text s.geminiModel
  openaiApiKey := Json.ofOption .text s.openaiApiKey
  openaiModel := .text s.openaiModel
  openaiBaseUrl := .text s.openaiBaseUrl
  timeoutMs := .int s.timeoutMs.val

/-- Refuses settings without a key for the chosen provider. -/
def requireKey (s : Settings) : Except Failure Unit :=
  match s.provider with
  | .gemini =>
    if s.connection.geminiApiKey.holds then .ok ()
    else .error (Connection.keyRequired "GEMINI_API_KEY" "gemini")
  | .gpt =>
    if s.connection.openaiApiKey.holds then .ok ()
    else .error (Connection.keyRequired "OPENAI_API_KEY" "gpt")

end Settings

end ResilientCalls
