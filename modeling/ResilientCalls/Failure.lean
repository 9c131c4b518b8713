import ResilientCalls.Json.Refusal
import ResilientCalls.Json.Value
import ResilientCalls.Text.Blank

namespace ResilientCalls

/-- What is wrong with a host name that is not sent. -/
inductive NameFlaw where
  | form
  | character
  | context
  | direction
  deriving DecidableEq

def NameFlaw.kind : NameFlaw → String
  | .form => "IDNAError"
  | .character => "InvalidCodepoint"
  | .context => "InvalidCodepointContext"
  | .direction => "IDNABidiError"

/-- Failures that do not belong to this library's own taxonomy. -/
inductive Foreign where
  | runtime (text : String)
  | value (text : String)
  | system (text : String)
  | missingKey (key : Json)
  | noSuchPlace (text : String)
  | noAttribute (type name : String)
  | notSubscriptable (type : String)
  | notIterable (type : String)
  | notText (place : Nat) (type : String)
  | notNumber (type : String)
  | notComparable (operator left right : String)
  | notOperands (operator left right : String)
  | illTyped (text : String)
  | outOfRange (text : String)
  | invalidUrl (text : String)
  | invalidName (flaw : NameFlaw) (text : String)
  | unencodable (text : String)
  | tooDeep (container : Json.Container)

namespace Foreign

/-- A whole number that no double is near to. -/
def tooLarge : Foreign := .outOfRange "int too large to convert to float"

def kind : Foreign → String
  | .runtime _ => "RuntimeError"
  | .value _ => "ValueError"
  | .system _ => "OSError"
  | .missingKey _ => "KeyError"
  | .noAttribute _ _ => "AttributeError"
  | .noSuchPlace _ => "IndexError"
  | .notSubscriptable _ | .notIterable _ | .notText _ _ | .notNumber _ | .notComparable ..
  | .notOperands .. | .illTyped _ => "TypeError"
  | .outOfRange _ => "OverflowError"
  | .invalidUrl _ => "InvalidURL"
  | .invalidName flaw _ => flaw.kind
  | .unencodable _ => "UnicodeEncodeError"
  | .tooDeep _ => "RecursionError"

def message : Foreign → String
  | .runtime text | .value text | .system text | .outOfRange text | .invalidUrl text
  | .invalidName _ text | .unencodable text | .noSuchPlace text | .illTyped text => text
  | .missingKey key => key.shown
  | .noAttribute type name => "'" ++ type ++ "' object has no attribute '" ++ name ++ "'"
  | .notSubscriptable type => "'" ++ type ++ "' object is not subscriptable"
  | .notIterable type => "'" ++ type ++ "' object is not iterable"
  | .notText place type =>
    "sequence item " ++ toString place ++ ": expected str instance, " ++ type ++ " found"
  | .notNumber type =>
    "float() argument must be a string or a real number, not '" ++ type ++ "'"
  | .notComparable operator left right =>
    "'" ++ operator ++ "' not supported between instances of '" ++ left ++ "' and '" ++ right ++ "'"
  | .notOperands operator left right =>
    "unsupported operand type(s) for " ++ operator ++ ": '" ++ left ++ "' and '" ++ right ++ "'"
  | .tooDeep container => (Json.Refusal.tooDeep container).message []

end Foreign

/-- The ways in which a call can fail. -/
inductive Failure where
  /-- A failure without a kind of its own. -/
  | general (text code : String) (httpStatus : Int) (details : Json)
  | validation (text : String) (errors : List Json)
  | configuration (text : String) (setting : Json)
  /-- One call to a provider failed. -/
  | provider (text name : String) (status : Option Int) (retriable : Bool) (code : String)
  /-- No answer within a limit, given as a text. -/
  | timeout (provider limitMs : String)
  | connection (provider reason : String)
  /-- The provider answered with a status outside 200 to 299. -/
  | badStatus (provider : String) (status : Int) (reason : String)
  /-- The provider's answer holds no usable text; an empty `text` gives the default message. -/
  | emptyResponse (provider text : String)
  /-- No candidate in the model's answer is a string map. -/
  | unreadable (raw : CodePoints) (reasons : List (String × String))
  /-- The breaker refused admission. -/
  | circuitOpen (key : Json) (state : String) (retryAfterMs : Option Int)
  /-- A fault was injected at a checkpoint. -/
  | injected (identifier : String)
  | untranslated (text : String) (retriable : Bool) (cause : Option Failure)
  /-- A failure that was made from a response, with the response's status. -/
  | httpStatus (text : String) (status : Json)
  | foreign (f : Foreign)
  /-- A failure that was put together by hand: its kind, its text, its attributes by name, and the
  status of the response that it was made from, null if there is none. -/
  | described (kind text : String) (attributes : List (String × Json)) (response : Json)

namespace Failure

instance : MonadLift (Except Foreign) (Except Failure) where
  monadLift x := x.mapError .foreign

/-- Statuses after which another attempt may succeed. -/
def retriableStatus (status : Int) : Bool := status = 429 || 500 ≤ status

/-- May another attempt succeed after a status of any kind? It has to be a number. -/
def retriableAfter (status : Json) : Except Foreign Bool :=
  match status.number? with
  | some n => .ok (n.equals 429 || n.reaches 500)
  | none => .error (.notComparable ">=" status.typeName "int")

/-- The kind of a refused admission. -/
def refusalKind : String := "CircuitBreakerOpenError"

def kind : Failure → String
  | .general .. => "AICoreError"
  | .validation .. => "ValidationError"
  | .configuration .. => "ConfigurationError"
  | .provider .. => "ProviderError"
  | .timeout .. => "ProviderTimeoutError"
  | .connection .. => "ProviderConnectionError"
  | .badStatus .. => "UpstreamStatusError"
  | .emptyResponse .. => "EmptyResponseError"
  | .unreadable .. => "ResponseParseError"
  | .circuitOpen .. => refusalKind
  | .injected .. => "FaultInjectedError"
  | .untranslated .. => "TranslationError"
  | .httpStatus .. => "HTTPStatusError"
  | .foreign f => f.kind
  | .described kind .. => kind

def message : Failure → String
  | .general text .. | .validation text _ | .configuration text _ | .provider text ..
  | .untranslated text .. | .httpStatus text _ | .described _ text .. => text
  | .timeout name limitMs => name ++ " request timed out after " ++ limitMs ++ "ms"
  | .connection name reason => name ++ " request failed: " ++ reason
  | .badStatus name status reason =>
    String.ofList (Text.trimEnd
      (name ++ " API request failed: " ++ toString status ++ " " ++ reason).toList)
  | .emptyResponse name text => if text = "" then name ++ " API returned empty response" else text
  | .unreadable .. => "Unable to parse JSON string map from model response"
  | .circuitOpen key state retryAfterMs =>
    let refused := "Circuit breaker '" ++ key.plain ++ "' is " ++ state
    match retryAfterMs with
    | some ms => if ms = 0 then refused else refused ++ "; retry after " ++ toString ms ++ "ms"
    | none => refused
  | .injected identifier => "[fault-injection] " ++ identifier
  | .foreign f => f.message

def providerDetails (name : String) (status : Option Int) (retriable : Bool) : Json :=
  .object [("provider", .text name), ("status", Json.ofOption .int status),
    ("retriable", .bool retriable)]

/-- What a failure of this library's own taxonomy tells an API's caller. -/
structure Report where
  code : String
  httpStatus : Int
  details : Json

/-- The report of a failure; foreign ones and those put together by hand have none. -/
def report? : Failure → Option Report
  | .general _ code http details =>
    some ⟨if code = "" then "INTERNAL_ERROR" else code, http, details⟩
  | .validation _ errors =>
    some ⟨"VALIDATION_ERROR", 400, .object [("errors", .list errors)]⟩
  | .configuration _ setting =>
    some ⟨"CONFIGURATION_ERROR", 500,
      if setting.holds then .object [("setting", setting)] else .null⟩
  | .provider _ name status retriable code =>
    some ⟨if code = "" then "INTERNAL_ERROR" else code, 502, providerDetails name status retriable⟩
  | .timeout name _ => some ⟨"PROVIDER_TIMEOUT", 502, providerDetails name none true⟩
  | .connection name _ => some ⟨"PROVIDER_CONNECTION_ERROR", 502, providerDetails name none true⟩
  | .badStatus name status _ =>
    some ⟨"UPSTREAM_STATUS_ERROR", 502, providerDetails name (some status) (retriableStatus status)⟩
  | .emptyResponse name _ => some ⟨"EMPTY_RESPONSE", 502, providerDetails name (some 502) true⟩
  | .unreadable raw reasons =>
    some ⟨"RESPONSE_PARSE_ERROR", 502,
      .object [("raw_text", .text (CodePoints.toString (raw.take 500))),
        ("failures", .list (reasons.map fun r => .text (r.1 ++ ": " ++ r.2)))]⟩
  | .circuitOpen key state retryAfterMs =>
    some ⟨"CIRCUIT_BREAKER_OPEN", 503,
      .object [("breaker", key), ("state", .text state),
        ("retry_after_ms", Json.ofOption .int retryAfterMs)]⟩
  | .injected _ => some ⟨"FAULT_INJECTED", 500, .null⟩
  | .untranslated _ retriable _ =>
    some ⟨"TRANSLATION_ERROR", 502, .object [("retriable", .bool retriable)]⟩
  | .httpStatus .. | .foreign _ | .described .. => none

/-- The names of the attributes that count. -/
inductive Attribute where
  | message
  | code
  | httpStatus
  | details
  | status
  | retriable
  | rawText
  | errors

def Attribute.name : Attribute → String
  | .message => "message"
  | .code => "error_code"
  | .httpStatus => "status_code"
  | .details => "details"
  | .status => "status"
  | .retriable => "retriable"
  | .rawText => "raw_text"
  | .errors => "errors"

/-- The status that a failure carries, null if there is none. An attribute counts only if it is a
whole number. -/
def status : Failure → Json
  | .provider _ _ status _ _ => Json.ofOption .int status
  | .badStatus _ status _ => .int status
  | .emptyResponse .. => .int 502
  | .circuitOpen .. => .int 503
  | .httpStatus _ status => status
  | .described _ _ attributes response =>
    match Json.get? (Attribute.name .status) attributes with
    | some (.int n) => .int n
    | _ => response
  | _ => .null

/-- The retriable mark of a failure; foreign failures have none. -/
def retriableMark : Failure → Option Json
  | .general .. | .validation .. | .configuration .. | .unreadable .. | .circuitOpen .. =>
    some (.bool false)
  | .provider _ _ _ retriable _ => some (.bool retriable)
  | .timeout .. | .connection .. | .emptyResponse .. | .injected _ => some (.bool true)
  | .badStatus _ status _ => some (.bool (retriableStatus status))
  | .untranslated _ retriable _ => some (.bool retriable)
  | .httpStatus .. | .foreign _ => none
  | .described _ _ attributes _ => Json.get? (Attribute.name .retriable) attributes

def isRefusal : Failure → Bool
  | .circuitOpen .. => true
  | .described kind .. => kind = refusalKind
  | _ => false

/-- Does the failure say that another attempt may succeed? -/
def claimsRetriable (f : Failure) : Bool :=
  match f.retriableMark with
  | some mark => mark.holds
  | none => false

/-- Retried when summarizing: anything but a refused admission that has no status, or one of 429 or
at least 500. A status that is no number cannot be told. -/
def isTransient (f : Failure) : Except Failure Bool :=
  if f.isRefusal then .ok false
  else if f.status.isNull then .ok true
  else (retriableAfter f.status).mapError .foreign

/-- Retried when translating: what is marked retriable, except a refused admission. -/
def isRetriable (f : Failure) : Bool := !f.isRefusal && f.claimsRetriable

/-- The failure that another one made final. -/
def cause : Failure → Option Failure
  | .untranslated _ _ cause => cause
  | _ => none

/-- The attributes of a failure; foreign ones have none but those that were given to them. -/
def attributes (f : Failure) : List (String × Json) :=
  let always := fun (a : Attribute) (j : Json) => [(a.name, j)]
  let present := fun (a : Attribute) (j : Option Json) => (j.map (a.name, ·)).toList
  match f with
  | .described _ _ attributes _ => attributes
  | _ =>
    match f.report? with
    | none => []
    | some r =>
      always .message (.text f.message) ++ always .code (.text r.code) ++
        always .httpStatus (.int r.httpStatus) ++ always .details r.details ++
        present .retriable f.retriableMark ++ always .status f.status ++
        (match f with
          | .validation _ errors => always .errors (.list errors)
          | .unreadable raw _ => always .rawText (.text raw.toString)
          | _ => [])

def attribute? (f : Failure) (a : Attribute) : Option Json := Json.get? a.name f.attributes

def valueOf (f : Failure) (a : Attribute) : Json := (f.attribute? a).getD .null

/-- The body of an API's error response. Details that hold nothing are left out. -/
def body (f : Failure) : Json :=
  let details := f.valueOf .details
  .object ([("error", .bool true), (Attribute.name .code, f.valueOf .code),
    (Attribute.name .message, f.valueOf .message)] ++
    if details.holds then [(Attribute.name .details, details)] else [])

/-- Is a failure one of this library's own taxonomy? -/
def isOwn (f : Failure) : Bool := (f.attribute? .code).isSome

end Failure

end ResilientCalls
