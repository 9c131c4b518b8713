import ResilientCalls.Arguments
import ResilientCalls.Json.Items
import ResilientCalls.Provider.Answer

namespace ResilientCalls.Provider

def defaultTimeoutMs : Int := 30000

namespace Family

def defaultModel : Family → String
  | .gemini => "gemini-1.5-pro-latest"
  | .gpt => "gpt-4o-mini"

def defaultBaseUrl : Family → String
  | .gemini => "https://generativelanguage.googleapis.com/v1beta"
  | .gpt => "https://api.openai.com/v1"

end Family

/-- What is needed to call a provider. Key, model and time limit are kept as they are given, and are
looked at only when a call is made. -/
structure Adapter where
  family : Family
  apiKey : Json
  model : Json
  timeoutMs : Json
  baseUrl : String

namespace Adapter

def withoutTrailing (c : Char) (s : String) : String :=
  String.ofList (s.toList.reverse.dropWhile (· = c)).reverse

/-- The model's name without the path segment that some spell before it. -/
def bareModel (model : String) : String :=
  let lead := "models/".toList
  if lead.isPrefixOf model.toList then String.ofList (model.toList.drop lead.length) else model

def make (family : Family) (apiKey model timeoutMs baseUrl : Json) : Except Failure Adapter := do
  let model ← match family with
    | .gemini => do pure (.text (bareModel (← model.textFor "startswith")))
    | .gpt => pure model
  let baseUrl ← baseUrl.textFor "rstrip"
  return { family, apiKey, model, timeoutMs, baseUrl := withoutTrailing '/' baseUrl }

def className : Family → String
  | .gemini => "GeminiProvider"
  | .gpt => "OpenAIProvider"

def signature (family : Family) : Signature :=
  ⟨className family ++ ".__init__()", ["api_key"], ["model", "timeout_ms", "base_url"]⟩

/-- The adapter that has the given arguments. -/
def ofArguments (family : Family) (args : Arguments) : Except Failure Adapter := do
  (signature family).check args
  make family (args.value "api_key") (args.valueOr "model" (.text family.defaultModel))
    (args.valueOr "timeout_ms" (.int defaultTimeoutMs))
    (args.valueOr "base_url" (.text family.defaultBaseUrl))

def name (a : Adapter) : String := a.family.name

def endpoint (a : Adapter) : String :=
  match a.family with
  | .gemini => a.baseUrl ++ "/models/" ++ a.model.plain ++ ":generateContent"
  | .gpt => a.baseUrl ++ "/chat/completions"

/-- The body that asks for an answer to a prompt, as JSON if `json` is set. -/
def payload (a : Adapter) (system user : Json) (json : Bool) : Json :=
  let textPart := fun j : Json => Json.list [.object [("text", j)]]
  match a.family with
  | .gemini =>
    .object
      [("systemInstruction", .object [("parts", textPart system)]),
        ("contents", .list [.object [("role", .text "user"), ("parts", textPart user)]]),
        ("generationConfig", .object
          (("temperature", .float 0.1) ::
            if json then [("responseMimeType", .text "application/json")] else []))]
  | .gpt =>
    .object
      ([("model", a.model), ("temperature", .float 0.2),
        ("messages", .list
          [.object [("role", .text "system"), ("content", system)],
            .object [("role", .text "user"), ("content", user)]])] ++
        if json then [("response_format", .object [("type", .text "json_object")])] else [])

/-- Headers that carry the key. -/
def headers (a : Adapter) : Json :=
  match a.family with
  | .gemini => .null
  | .gpt => .object [("Authorization", .text ("Bearer " ++ a.apiKey.plain))]

/-- Parameters that carry the key. -/
def params (a : Adapter) : Json :=
  match a.family with
  | .gemini => .object [("key", a.apiKey)]
  | .gpt => .null

def toJson (a : Adapter) : Json :=
  .object [("class", .text (className a.family)), ("name", .text a.name), ("model", a.model),
    ("api_key", a.apiKey), ("timeout_ms", a.timeoutMs), ("base_url", .text a.baseUrl),
    ("endpoint", .text a.endpoint)]

end Adapter

end ResilientCalls.Provider
