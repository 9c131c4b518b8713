import ResilientCalls.Fault
import ResilientCalls.Settings
import ResilientCalls.Text.Written

namespace ResilientCalls.Settings

/-- The variables and their values, which are texts if they come from the process. -/
abbrev Environment := List (String × Json)

/-- The value of a variable, null if it is not set. -/
def valueOf (env : Environment) (name : String) : Json := (Json.get? name env).getD .null

/-- The trimmed value of a variable, unless it is blank. -/
def text? (env : Environment) (name : String) : Except Failure (Option String) := do
  let value := valueOf env name
  if value.isNull then return none
  let s := Text.trimmed (← value.textFor "strip")
  return if s = "" then none else some s

def invalid (kind name value : String) : Failure :=
  .configuration ("Invalid " ++ kind ++ " for " ++ name ++ ": " ++ Text.quoted value) (.text name)

def integer? (env : Environment) (name : String) : Except Failure (Option Int) := do
  match ← text? env name with
  | none => return none
  | some s =>
    match Text.writtenInt? s.toList with
    | some n => return some n
    | none => throw (invalid "integer" name s)

def trueWords : List String := ["1", "true", "yes", "on"]

def falseWords : List String := ["0", "false", "no", "off"]

def truth? (env : Environment) (name : String) : Except Failure (Option Bool) := do
  match ← text? env name with
  | none => return none
  | some s =>
    if s.toLower ∈ trueWords then return some true
    else if s.toLower ∈ falseWords then return some false
    else throw (invalid "boolean" name s)

def duration? (env : Environment) (name : String) : Except Failure (Option Nat) :=
  Duration.ofSetting (valueOf env name) (.text name)

/-- A field for a value that is given. -/
def given {α : Type} (name : String) (f : α → Json) : Option α → List (String × Json)
  | none => []
  | some a => [(name, f a)]

/-- How long a breaker stays open: the duration, or else the number of seconds. -/
def recoveryMs? (env : Environment) : Except Failure (Option Int) := do
  match ← duration? env "EXTERNAL_API_RECOVERY_TIMEOUT" with
  | some ms => return some ms
  | none => return (← integer? env "EXTERNAL_API_RECOVERY_TIMEOUT_SECONDS").map (· * 1000)

def breakerFields (env : Environment) : Except Failure (List (String × Json)) := do
  let recovery ← recoveryMs? env
  let enabled ← truth? env "CIRCUIT_BREAKER_ENABLED"
  let threshold ← integer? env "EXTERNAL_API_FAILURE_THRESHOLD"
  let probes ← integer? env "EXTERNAL_API_HALF_OPEN_MAX_CALLS"
  return given "enabled" .bool enabled ++ given "failure_threshold" .int threshold ++
    given "recovery_timeout_ms" .int recovery ++ given "half_open_max_calls" .int probes

/-- The flags that the environment lists between commas, trimmed; blank ones are dropped. -/
def flags (env : Environment) : Except Failure (List String) := do
  let listed ← (valueOf env Fault.flagVariable).textOrEmpty "split"
  return (((listed.toList.splitOn ',').map String.ofList).map Text.trimmed).filter (· ≠ "")

/-- The field for the text of a variable. -/
def textField (env : Environment) (name source : String) :
    Except Failure (List (String × Json)) := do
  return given name .text (← text? env source)

/-- The fields that the environment gives. -/
def environmentFields (env : Environment) : Except Failure (List (String × Json)) := do
  let breaker ← breakerFields env
  let provider ← textField env "provider" "TRANSLATION_PROVIDER"
  let geminiKey ← textField env "gemini_api_key" "GEMINI_API_KEY"
  let geminiModel ← textField env "gemini_model" "GEMINI_MODEL"
  let openaiKey ← textField env "openai_api_key" "OPENAI_API_KEY"
  let openaiModel ← textField env "openai_model" "OPENAI_TRANSLATION_MODEL"
  let openaiBase ← textField env "openai_base_url" "OPENAI_BASE_URL"
  let timeout ← duration? env "AI_REQUEST_TIMEOUT"
  let attempts ← integer? env "EXTERNAL_API_RETRY_ATTEMPTS"
  let faultFlags ← flags env
  let backend ← text? env "METRICS_BACKEND"
  let metricsNamespace ← textField env "metrics_namespace" "METRICS_NAMESPACE"
  return provider ++ geminiKey ++ geminiModel ++ openaiKey ++ openaiModel ++ openaiBase ++
    given "request_timeout_ms" (fun ms : Nat => .int ms) timeout ++
    given "retry_attempts" .int attempts ++
    [("circuit_breaker", .object breaker), ("fault_flags", .list (faultFlags.map .text))] ++
    given "metrics_backend" (fun s : String => .text s.toLower) backend ++ metricsNamespace

/-- The failure that reports the first issue with the settings. -/
def rejected : List Schema.Issue → Failure
  | [] => .configuration "Invalid AI service configuration: : None" (.text "")
  | i :: _ =>
    .configuration ("Invalid AI service configuration: " ++ i.field ++ ": " ++ i.message)
      (.text i.field)

/-- The environment that a value gives; for null it is the process's. -/
def Environment.ofJson (process : List (String × String)) (j : Json) :
    Except Foreign Environment :=
  match j with
  | .null => .ok (process.map fun v => (v.1, .text v.2))
  | .object fields => .ok fields
  | _ => .error (.noAttribute j.typeName "get")

/-- The settings of an environment, with those that are given directly in their place. -/
def ofEnvironment (env : Environment) (overrides : List (String × Json)) :
    Except Failure Settings := do
  let fields ← environmentFields env
  match ofFields (Json.ofAssignments (fields ++ overrides)) with
  | .error issues => .error (rejected issues)
  | .ok s => do
    s.requireKey
    return s

end ResilientCalls.Settings
