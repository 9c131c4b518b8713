import ResilientCalls.Http.Exchange
import ResilientCalls.Metric.Sink
import ResilientCalls.Provider.Adapter
import ResilientCalls.Json.Reader
import ResilientCalls.Text.Octets

namespace ResilientCalls.Provider

/-- How requests leave: `send` makes one, and `stopwatch` reads a clock in seconds. -/
structure Transport (τ σ : Type) where
  send : Http.Request → Run τ σ Http.Outcome
  stopwatch : Run τ σ Binary64

variable {τ σ : Type}

/-- Whole milliseconds in seconds. -/
def wholeSeconds (ms : Int) : Except Foreign Binary64 :=
  let x := Binary64.ofRatio (ms < 0) ms.natAbs 1000
  if x.isInfinite then .error (.outOfRange "integer division result too large for a float")
  else .ok x

/-- Milliseconds in seconds. -/
def timeoutSeconds (ms : Json) : Except Foreign Binary64 :=
  match ms with
  | .int n => wholeSeconds n
  | .bool b => wholeSeconds (if b then 1 else 0)
  | .float x => .ok (x / 1000)
  | _ => .error (.notOperands "/" ms.typeName "int")

/-- What a response's content reads as. -/
inductive Content where
  | object (j : Document)
  | notObject
  | notJson (reason : String)
  | tooDeep (container : Json.Container)

def contentOf [Json.Depth] (octets : List Nat) : Content :=
  match Text.decodeDetected octets with
  | .error fault => .notJson fault.message
  | .ok ps =>
    match Json.read ps with
    | .ok (.object fields) => .object (.object fields)
    | .ok _ => .notObject
    | .error (.tooDeep container) => .tooDeep container
    | .error r => .notJson (r.message ps)

namespace Adapter

def logRecord (a : Adapter) (level : Level) (event : String) (fields : List (String × Json)) :
    LogRecord :=
  ⟨level, event,
    [("service", .text (a.name ++ "_provider")), ("model", a.model)] ++ fields⟩

/-- What a request's outcome means, with the status that was received. -/
def interpret [Json.Depth] (a : Adapter) : Http.Outcome → Run τ σ Document
  | .timedOut => Effect.fail (.timeout a.name a.timeoutMs.plain)
  | .broken reason => Effect.fail (.connection a.name reason)
  | .response status content => do
    if !Http.isSuccess status then
      let shown := (Text.decodeLenient [] 0 content).take 200
      Run.logged (a.logRecord .warning "Provider request failed"
        [("status", .int status), ("body", .text (String.ofList shown))])
      Effect.fail (.badStatus a.name status (Http.reason status))
    else
      match contentOf content with
      | .object body => do
        Run.logged (a.logRecord .debug "Provider request succeeded" [("status", .int status)])
        pure body
      | .notObject =>
        Effect.fail (.emptyResponse a.name (a.name ++ " API returned a non-object body"))
      | .notJson reason =>
        Effect.fail (.emptyResponse a.name (a.name ++ " API returned invalid JSON: " ++ reason))
      | .tooDeep container => Effect.fail (.foreign (.tooDeep container))

def statusOf : Except Stop Http.Outcome → Int
  | .ok (.response status _) => status
  | _ => 0

/-- Posts a body and reads the object that answers it. -/
def post [Json.Depth] (a : Adapter) (t : Transport τ σ) (sink : Option Sink)
    (url body headers params : Json) : Run τ σ Document := do
  let headers ← Effect.ofForeign (Http.jsonHeaders headers)
  let timeout ← Effect.ofForeign (timeoutSeconds a.timeoutMs)
  let started ← t.stopwatch
  let outcome ← Effect.ending do
    let request ← Effect.ofForeign (Http.Request.post url body headers params timeout)
    let outcome ← t.send request
    Effect.ofForeign (request.receive outcome)
  Effect.thereafter (do a.interpret (← Effect.conclude outcome)) do
    let ended ← t.stopwatch
    (← Sink.orShared sink).recordRequest
      { route := a.model, method := .text "POST", status := .int (statusOf outcome),
        durationMs := (ended - started) * 1000, service := .text a.name }

/-- The model's answer to a prompt. -/
def generate [Json.Depth] (a : Adapter) (t : Transport τ σ) (sink : Option Sink)
    (system user : Json) (json : Bool) : Run τ σ CodePoints := do
  let body ← a.post t sink (.text a.endpoint) (a.payload system user json) a.headers a.params
  let text ← Effect.ofForeign (a.family.answer body)
  if text = [] then Effect.fail (.emptyResponse a.name "") else pure text

end Adapter

end ResilientCalls.Provider
