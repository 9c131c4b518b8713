import ResilientCalls.Breaker.Guard
import ResilientCalls.Fault
import ResilientCalls.Provider
import ResilientCalls.Retry.Engine

namespace ResilientCalls

inductive Task where
  | summarizing
  | translating
  deriving DecidableEq

def Task.name : Task → String
  | .summarizing => "summarizer"
  | .translating => "translation"

/-- The task of a name; names that are not known mean summarizing. -/
def Task.ofName (name : String) : Task :=
  if name = "translation" then .translating else .summarizing

/-- What the services have in common: calls under the guard of a breaker, retried under a policy,
with checkpoints at which faults can be injected. -/
structure Service where
  task : Task
  breaker : Breaker.Id
  policy : Retry.Policy
  faults : Fault.Harness
  sink : Option Sink

namespace Service

variable {τ σ α : Type}

/-- The breaker key of a task that a provider serves. -/
def key (task : Task) (provider : String) : String := task.name ++ ":" ++ provider

/-- A service for a provider. Its breaker has the default configuration unless one is given. -/
def make (task : Task) (provider : String) (config : Option Breaker.Config) (policy : Retry.Policy)
    (faults : Fault.Harness) (sink : Option Sink) : Run τ σ Service := do
  let config ← match config with
    | some c => pure c
    | none => Effect.ofExcept (Breaker.Config.standard (key task provider))
  let (breaker, _) ← Breaker.enroll config
  return { task, breaker, policy, faults, sink }

/-- Fails at a checkpoint of the service's task that is enabled. -/
def checkpoint (s : Service) (stage : String) : Run τ σ Unit :=
  s.faults.inject (s.task.name ++ "." ++ stage)

def logged (s : Service) (provider : String) (level : Level) (event : String)
    (fields : List (String × Json)) : Run τ σ Unit :=
  Run.logged ⟨level, event,
    [("service", .text s.task.name), ("provider", .text provider)] ++ fields⟩

def retryMetric (s : Service) : String := "ai." ++ s.task.name ++ ".retry"

def outcomeMetric (s : Service) : String := "ai." ++ s.task.name ++ ".outcome"

def count (s : Service) (metric : String) (labels : List (String × Json)) : Run τ σ Unit :=
  Sink.count s.sink metric labels

/-- A status as an outcome's label. -/
def statusLabel (status : Json) : Json := if status.isNull then .text "unknown" else status

/-- A status as a retry's label: one that holds nothing, such as zero, is no status. -/
def retryStatusLabel (status : Json) : Json := if status.holds then status else .text "unknown"

/-- The error that a log record tells of. -/
def errorFields (f : Failure) : List (String × Json) :=
  [("error", .text f.message), ("error_class", .text f.kind)]

/-- The guard of the service's breaker. -/
def guard [Clock τ] (s : Service) : Breaker.Guard (World τ σ) := Breaker.guard s.breaker

/-- Makes attempts under a guard and the service's policy, if the guard lets any be made. -/
def attempts (s : Service) (g : Breaker.Guard (World τ σ)) (wait : Binary64 → Run τ σ Unit)
    (shouldRetry : Failure → Except Failure Bool) (onRetry : Failure → Nat → Run τ σ Unit)
    (body : Run τ σ α) : Run τ σ α := do
  g.check
  let hooks : Retry.Hooks (World τ σ) :=
    { shouldRetry := fun f => Effect.ofExcept (shouldRetry f), onRetry, wait, log := Run.logged }
  Retry.run s.policy hooks do
    g.call do
      s.checkpoint "retry-attempt"
      body

end Service

end ResilientCalls
