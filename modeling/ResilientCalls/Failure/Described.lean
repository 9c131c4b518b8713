import ResilientCalls.Arguments
import ResilientCalls.Effect
import ResilientCalls.Json.Items

namespace ResilientCalls

namespace Failure

def signature (kind : String) : Signature :=
  let (required, optional) := match kind with
    | "AICoreError" => (["message"], ["error_code", "status_code", "details"])
    | "ValidationError" => ([], ["message", "errors"])
    | "ConfigurationError" => (["message"], ["setting"])
    | "ProviderError" => (["message", "provider"], ["status", "retriable", "error_code"])
    | "ProviderTimeoutError" => (["provider", "timeout_ms"], [])
    | "ProviderConnectionError" => (["provider", "original_error"], [])
    | "UpstreamStatusError" => (["provider", "status"], ["reason"])
    | "EmptyResponseError" => (["provider"], ["message"])
    | "ResponseParseError" => (["raw_text", "failures"], [])
    | "CircuitBreakerOpenError" => (["key", "state"], ["retry_after_ms"])
    | "FaultInjectedError" => (["identifier"], [])
    | _ => (["message"], ["retriable"])
  ⟨kind ++ ".__init__()", required, optional⟩

/-- The kinds of this library's own taxonomy. -/
def ownKinds : List String :=
  ["AICoreError", "ValidationError", "ConfigurationError", "ProviderError", "ProviderTimeoutError",
    "ProviderConnectionError", "UpstreamStatusError", "EmptyResponseError", "ResponseParseError",
    "CircuitBreakerOpenError", "FaultInjectedError", "TranslationError"]

/-- A failure of the taxonomy that is not to be retried, unless `more` says otherwise. -/
def own (kind text : String) (code : Json) (httpStatus details : Json)
    (more : List (Attribute × Json)) : Failure :=
  let fixed : List (Attribute × Json) :=
    [(.message, .text text), (.code, if code.holds then code else .text "INTERNAL_ERROR"),
      (.httpStatus, httpStatus), (.details, details), (.retriable, .bool false)]
  .described kind text
    (Json.ofAssignments ((fixed ++ more).map fun p => (p.1.name, p.2))) .null

/-- A failure of a call to a provider. -/
def ofProvider (kind text code : String) (provider status retriable : Json) : Failure :=
  own kind text (.text code) (.int 502)
    (.object [("provider", provider), ("status", status), ("retriable", retriable)])
    [(.status, status), (.retriable, retriable)]

/-- A candidate of an answer and why it was rejected. -/
def rejection (j : Json) : Except Failure (Json × Json) :=
  match j with
  | .list [label, reason] => .ok (label, reason)
  | .list (_ :: _ :: _) =>
    .error (.foreign (.value "too many values to unpack (expected 2)"))
  | .list items =>
    .error (.foreign (.value
      ("not enough values to unpack (expected 2, got " ++ toString items.length ++ ")")))
  | _ => .error (.foreign (.illTyped ("cannot unpack non-iterable " ++ j.typeName ++ " object")))

def unreadableAnswer (raw failures : Json) : Except Failure Failure := do
  let shown ← match raw with
    | .text s => pure (.text (String.ofList (s.toList.take 500)))
    | .list items => pure (.list (items.take 500))
    | .object _ => throw (.foreign (.illTyped "unhashable type: 'slice'"))
    | _ => throw (.foreign (.notSubscriptable raw.typeName))
  let reasons ← match failures with
    | .list items => items.mapM rejection
    | _ => throw (.foreign (.notIterable failures.typeName))
  return own "ResponseParseError" "Unable to parse JSON string map from model response"
    (.text "RESPONSE_PARSE_ERROR") (.int 502)
    (.object [("raw_text", shown),
      ("failures", .list (reasons.map fun r => .text (r.1.plain ++ ": " ++ r.2.plain)))])
    [(.rawText, raw)]

def admissionRefused (key state retryAfterMs : Json) : Failure :=
  let refused := "Circuit breaker '" ++ key.plain ++ "' is " ++ state.plain
  let text := if retryAfterMs.holds then refused ++ "; retry after " ++ retryAfterMs.plain ++ "ms"
    else refused
  own refusalKind text (.text "CIRCUIT_BREAKER_OPEN") (.int 503)
    (.object [("breaker", key), ("state", state), ("retry_after_ms", retryAfterMs)])
    [(.status, .int 503)]

/-- The failure of the taxonomy whose arguments are of the expected types. -/
def expected? (kind : String) (args : Arguments) : Option Failure :=
  let text := fun name => match args.value name with
    | .text s => some s
    | _ => none
  let int := fun name => match args.value name with
    | .int n => some n
    | _ => none
  let truth := fun name => match args.valueOr name (.bool false) with
    | .bool b => some b
    | _ => none
  let nullable := fun {α : Type} (read : String → Option α) (name : String) =>
    if (args.value name).isNull then some none else (read name).map some
  match kind with
  | "AICoreError" => do
    let status ← if (Json.get? "status_code" args).isNone then some 500 else int "status_code"
    return .general (← text "message") ((← nullable text "error_code").getD "") status
      (args.value "details")
  | "ProviderError" => do
    let code ← if (Json.get? "error_code" args).isNone then some "PROVIDER_ERROR"
      else text "error_code"
    return .provider (← text "message") (← text "provider") (← nullable int "status")
      (← truth "retriable") code
  | "ConfigurationError" => do return .configuration (← text "message") (args.value "setting")
  | "ProviderTimeoutError" => do
    return .timeout (← text "provider") (toString (← int "timeout_ms"))
  | "ProviderConnectionError" => do
    return .connection (← text "provider") (← text "original_error")
  | "UpstreamStatusError" => do
    let reason ← if (Json.get? "reason" args).isNone then some "" else text "reason"
    return .badStatus (← text "provider") (← int "status") reason
  | "EmptyResponseError" => do
    return .emptyResponse (← text "provider") ((← nullable text "message").getD "")
  | "CircuitBreakerOpenError" => do
    return .circuitOpen (args.value "key") (← text "state") (← nullable int "retry_after_ms")
  | "FaultInjectedError" => do return .injected (← text "identifier")
  | "TranslationError" => do
    return .untranslated (← text "message") (← truth "retriable") none
  | _ => none

/-- The failure of the taxonomy that the arguments put together. -/
def ofLooseArguments (kind : String) (args : Arguments) : Except Failure Failure := do
  let arg := args.value
  match kind with
  | "AICoreError" =>
    return own kind (arg "message").plain (arg "error_code") (args.valueOr "status_code" (.int 500))
      (arg "details") [(.message, arg "message")]
  | "ValidationError" =>
    let text := args.valueOr "message" (.text "Validation failed")
    let errors := if (arg "errors").holds then arg "errors" else .list []
    return own kind text.plain (.text "VALIDATION_ERROR") (.int 400) (.object [("errors", errors)])
      [(.message, text), (.errors, errors)]
  | "ConfigurationError" =>
    let setting := arg "setting"
    return own kind (arg "message").plain (.text "CONFIGURATION_ERROR") (.int 500)
      (if setting.holds then .object [("setting", setting)] else .null) [(.message, arg "message")]
  | "ProviderError" =>
    let status := arg "status"
    let retriable := args.valueOr "retriable" (.bool false)
    return own kind (arg "message").plain (args.valueOr "error_code" (.text "PROVIDER_ERROR"))
      (.int 502)
      (.object [("provider", arg "provider"), ("status", status), ("retriable", retriable)])
      [(.message, arg "message"), (.status, status), (.retriable, retriable)]
  | "ProviderTimeoutError" =>
    let name := arg "provider"
    return ofProvider kind
      (name.plain ++ " request timed out after " ++ (arg "timeout_ms").plain ++ "ms")
      "PROVIDER_TIMEOUT" name .null (.bool true)
  | "ProviderConnectionError" =>
    let name := arg "provider"
    return ofProvider kind (name.plain ++ " request failed: " ++ (arg "original_error").plain)
      "PROVIDER_CONNECTION_ERROR" name .null (.bool true)
  | "UpstreamStatusError" =>
    let name := arg "provider"
    let status := arg "status"
    let reason := args.valueOr "reason" (.text "")
    let text := name.plain ++ " API request failed: " ++ status.plain ++ " " ++ reason.plain
    return ofProvider kind (String.ofList (Text.trimEnd text.toList)) "UPSTREAM_STATUS_ERROR" name
      status (.bool (← retriableAfter status))
  | "EmptyResponseError" =>
    let name := arg "provider"
    let text := arg "message"
    let text := if text.holds then text else .text (name.plain ++ " API returned empty response")
    return own kind text.plain (.text "EMPTY_RESPONSE") (.int 502)
      (.object [("provider", name), ("status", .int 502), ("retriable", .bool true)])
      [(.message, text), (.status, .int 502), (.retriable, .bool true)]
  | "ResponseParseError" => unreadableAnswer (arg "raw_text") (arg "failures")
  | "CircuitBreakerOpenError" =>
    return admissionRefused (arg "key") (arg "state") (arg "retry_after_ms")
  | "FaultInjectedError" =>
    return own kind ("[fault-injection] " ++ (arg "identifier").plain) (.text "FAULT_INJECTED")
      (.int 500) .null [(.retriable, .bool true)]
  | _ =>
    let retriable := args.valueOr "retriable" (.bool false)
    return own kind (arg "message").plain (.text "TRANSLATION_ERROR") (.int 502)
      (.object [("retriable", retriable)]) [(.message, arg "message"), (.retriable, retriable)]

/-- The failure of a kind that has the given arguments. -/
def ofArguments (kind : String) (args : Arguments) : Except Failure Failure :=
  let given := args.value "message"
  let text := if given.isNull && (Json.get? "message" args).isNone then "" else given.plain
  if kind ∈ ownKinds then do
    (signature kind).check args
    match expected? kind args with
    | some f => return f
    | none => ofLooseArguments kind args
  else
    match kind with
    | "HTTPStatusError" => .ok (.httpStatus text (args.value "status"))
    | "ValueError" => .ok (.foreign (.value text))
    | "KeyError" =>
      .ok (.foreign (.missingKey (args.valueOr "message" (.text ""))))
    | "OSError" => .ok (.foreign (.system text))
    | _ => .ok (.foreign (.runtime text))

/-- The text of a failure that says only what it was given. -/
def textOfParts (kind : String) : List Json → String
  | [] => ""
  | [j] => if kind = (Foreign.missingKey j).kind then j.shown else j.plain
  | parts => "(" ++ ", ".intercalate (parts.map Json.shown) ++ ")"

/-- The text of a failure of the system that knows its number, its reason and whom it concerns. -/
def systemText? (set : List (String × Json)) : Option String :=
  let numbered := fun number reason : Json =>
    "[Errno " ++ number.plain ++ "] " ++ reason.plain
  let value := fun name => (Json.get? name set).getD .null
  match Json.get? "filename" set, Json.get? "errno" set, Json.get? "strerror" set with
  | some file, number, reason =>
    let text := numbered (number.getD .null) (reason.getD .null) ++ ": " ++ file.shown
    some (if (Json.get? "filename2" set).isNone then text
      else text ++ " -> " ++ (value "filename2").shown)
  | none, some number, some reason => some (numbered number reason)
  | none, _, _ => none

/-- The text of a failure once attributes are set. -/
def textWith (f : Failure) (set : List (String × Json)) : Except Foreign String := do
  let parts ← (Json.get? "args" set).mapM Json.items
  let text := (parts.map (textOfParts f.kind)).getD f.message
  return if f.kind = (Foreign.system "").kind then (systemText? set).getD text else text

/-- A failure on which attributes were set. Only some attributes of a foreign failure count. -/
def withAttributes (f : Failure) (set : List (String × Json)) : Except Foreign Failure := do
  let counting := [Attribute.status, .retriable, .errors].map Attribute.name
  let counted := if f.isOwn then set else set.filter (·.1 ∈ counting)
  let response := match f with
    | .httpStatus _ status => status
    | _ => .null
  return .described f.kind (← f.textWith set) (Json.ofAssignments (f.attributes ++ counted))
    response

/-- The failure that reports the issues which a failure lists. Only a check has a list of issues to
be asked for; what else goes by its name cannot be asked. -/
def reported (f : Failure) : Except Failure Failure :=
  match f.attribute? .errors with
  | none => .ok (.validation "Validation failed" [])
  | some j => .error (.foreign (.illTyped ("'" ++ j.typeName ++ "' object is not callable")))

end Failure

namespace Stop

def cancelledKind : String := "Cancelled"

end Stop

namespace Failure

/-- A cancellation, told of like a failure. -/
def cancellation : Failure := .described "CancelledError" "" [] .null

/-- The failure, or the cancellation, that is described by a kind, arguments and attributes. -/
def ofDescription (kind : String) (args : Arguments) (set : List (String × Json)) :
    Except Failure Failure := do
  let f ← if kind = Stop.cancelledKind then pure cancellation else ofArguments kind args
  if set.isEmpty then return f else f.withAttributes set

end Failure

namespace Stop

/-- The way of ending that is described by a kind, arguments and attributes. -/
def ofArguments (kind : String) (args : Arguments) (set : List (String × Json)) :
    Except Failure Stop :=
  (Failure.ofDescription kind args set).map fun f =>
    if kind = cancelledKind then .cancelled else .failed f

end Stop

end ResilientCalls
