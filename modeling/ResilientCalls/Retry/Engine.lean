import ResilientCalls.Effect
import ResilientCalls.Log
import ResilientCalls.Retry.Policy

namespace ResilientCalls.Retry

/-- What a retried action depends on. -/
structure Hooks (s : Type) where
  shouldRetry : Failure → Effect s Bool
  /-- Told of the failure of an attempt, before the wait for the next. -/
  onRetry : Failure → Nat → Effect s Unit
  /-- Waits for so many seconds. -/
  wait : Binary64 → Effect s Unit
  log : LogRecord → Effect s Unit

variable {s α : Type}

def describe (f : Failure) (event : String) (level : Level) (rest : List (String × Json)) :
    LogRecord :=
  ⟨level, event, [("service", .text "retry_engine"), ("error", .text f.message)] ++ rest⟩

def exhausted (f : Failure) (made : Nat) : LogRecord :=
  describe f "Operation failed after max attempts" .warning
    [("error_class", .text f.kind), ("attempts", .int made)]

def declined (f : Failure) (made : Nat) : LogRecord :=
  describe f "Operation failed permanently" .info
    [("error_class", .text f.kind), ("attempts", .int made)]

def retrying (f : Failure) (made : Nat) (delayMs : Binary64) : LogRecord :=
  describe f "Retrying operation" .info [("attempt", .int made), ("next_delay_ms", .float delayMs)]

/-- Prepares the attempt after the `made`-th: tells of the retry and waits. -/
def pause (p : Policy) (h : Hooks s) (f : Failure) (made : Nat) : Effect s Unit := do
  let delay ← Effect.ofExcept (p.delayMs made)
  h.onRetry f made
  h.log (retrying f made delay)
  if 0 < delay then h.wait (delay / 1000) else pure ()

/-- Makes the `made`-th attempt, with so many left after it. -/
def attemptFrom (p : Policy) (h : Hooks s) (action : Effect s α) (made : Nat) :
    (left : Nat) → Effect s α
  | 0 => do
    match ← Effect.ending action with
    | .ok a => pure a
    | .error .cancelled => Effect.stop .cancelled
    | .error (.failed f) => do
      h.log (exhausted f made)
      Effect.fail f
  | left + 1 => do
    match ← Effect.ending action with
    | .ok a => pure a
    | .error .cancelled => Effect.stop .cancelled
    | .error (.failed f) => do
      if ← h.shouldRetry f then
        pause p h f made
        attemptFrom p h action (made + 1) left
      else
        h.log (declined f made)
        Effect.fail f

/-- Runs an action under a policy. -/
def run (p : Policy) (h : Hooks s) (action : Effect s α) : Effect s α :=
  attemptFrom p h action 1 (p.limit - 1)

end ResilientCalls.Retry
