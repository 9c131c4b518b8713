import ResilientCalls.Breaker.Registry
import ResilientCalls.Effect
import ResilientCalls.Metric

namespace ResilientCalls

/-- What became of a datum that was handed to the metrics service. -/
inductive Delivery where
  | accepted
  | refused (reason : String)
  | broken (f : Failure)

/-- All that calls can read and change. `outside` stands for what the library does not know of: the
providers, the network and whoever waits. -/
structure World (τ σ : Type) where
  now : τ
  registry : Breaker.Registry τ
  /-- The ledger of each sink, by its number. -/
  ledgers : List Ledger
  /-- The sink of those that were given none. -/
  sharedSink : Option Sink
  log : List LogRecord
  /-- Data handed to the metrics service, with their namespaces. -/
  published : List (Json × Datum)
  delivery : Delivery
  processFlags : List String
  environment : List (String × String)
  outside : σ

/-- A computation in the world. -/
abbrev Run (τ σ α : Type) := Effect (World τ σ) α

namespace World

variable {τ σ α : Type}

def start (now : τ) (outside : σ) : World τ σ where
  now
  registry := .empty
  ledgers := []
  sharedSink := none
  log := []
  published := []
  delivery := .accepted
  processFlags := []
  environment := []
  outside

def ledger (w : World τ σ) (s : Sink) : Ledger := (w.ledgers[s.number]?).getD .empty

def modifyLedger (w : World τ σ) (s : Sink) (f : Ledger → Ledger) : World τ σ :=
  { w with ledgers := w.ledgers.modify s.number f }

def addLog (w : World τ σ) (r : LogRecord) : World τ σ := { w with log := w.log ++ [r] }

end World

namespace Run

variable {τ σ α : Type}

def logged (r : LogRecord) : Run τ σ Unit := Effect.modify fun w => w.addLog r

/-- A value of the world outside. -/
def outside (x : Effect σ α) : Run τ σ α := fun w =>
  let (r, o) := x w.outside
  (r, { w with outside := o })

/-- The value of an environment variable, if it is set. -/
def setting? (name : String) : Run τ σ (Option String) := do
  let w ← Effect.get
  return Json.get? name w.environment

/-- The text that a name or value of a variable has to be. -/
def variableText (j : Json) : Except Foreign String :=
  match j with
  | .text s => .ok s
  | _ => .error (.illTyped ("str expected, not " ++ j.typeName))

/-- Sets an environment variable. -/
def setVariable (name value : Json) : Run τ σ Unit := do
  let name ← Effect.ofForeign (variableText name)
  let value ← Effect.ofForeign (variableText value)
  if name.contains '\x00' || value.contains '\x00' then
    Effect.fail (.foreign (.value "embedded null byte"))
  else if name.contains '=' then
    Effect.fail (.foreign (.value "illegal environment variable name"))
  else if name = "" then Effect.fail (.foreign (.system "[Errno 22] Invalid argument"))
  else Effect.modify fun w => { w with environment := Json.put name value w.environment }

end Run

end ResilientCalls
