import ResilientCalls.Breaker.Clock
import ResilientCalls.Breaker.Config

namespace ResilientCalls.Breaker

inductive Phase where
  | closed
  | opened
  | halfOpen
  deriving DecidableEq

def Phase.name : Phase → String
  | .closed => "closed"
  | .opened => "open"
  | .halfOpen => "half_open"

def phases : List (String × Phase) :=
  [Phase.closed, .opened, .halfOpen].map fun p => (p.name, p)

/-- The phase that a value names. -/
def Phase.ofJson (j : Json) : Except Foreign Phase :=
  match j with
  | .text name => (Json.get? name phases).elim other .ok
  | _ => other
where
  other : Except Foreign Phase :=
    .error (.value (j.shown ++ " is not a valid CircuitState"))

/-- Closed, a breaker counts failures in a row; open, it refuses; half open, it lets a few probes
through, the first outcome of which decides. Every change of phase begins a new window, numbered by
the count of changes. -/
structure State (τ : Type) where
  phase : Phase
  failures : Number
  openedAt : Option τ
  inFlight : Number
  transitions : Nat
  deriving DecidableEq

/-- What a breaker reports of a step. -/
inductive Notice where
  | moved (before after : Phase)
  | blocked (phase : Phase) (retryAfterMs : Option Nat)
  | reset
  deriving DecidableEq

inductive Verdict where
  | granted
  | refused (retryAfterMs : Option Nat)
  deriving DecidableEq

/-- What an admitted call gives back when it ends; `window` is that of the slot it took, if any. -/
structure Ticket where
  window : Option Nat
  used : Bool
  deriving DecidableEq

namespace State

variable {τ : Type}

def fresh : State τ := ⟨.closed, 0, none, 0, 0⟩

/-- Enters a phase, unless the breaker is in it. -/
def move (s : State τ) (now : τ) (phase : Phase) : State τ × List Notice :=
  if s.phase = phase then (s, [])
  else
    ({ phase, failures := 0, openedAt := if phase = .opened then some now else none,
       inFlight := 0, transitions := s.transitions + 1 },
      [.moved s.phase phase])

/-- What is left of the open window. -/
def remainingMs [Clock τ] (s : State τ) (c : Config) (now : τ) : Except Failure Nat :=
  match s.openedAt with
  | none => .ok 0
  | some opened => Clock.remainingMs c.recoveryMs opened now

/-- May a call be made now? -/
def verdict [Clock τ] (s : State τ) (c : Config) (now : τ) : Except Failure Verdict :=
  if !c.isEnabled then .ok .granted
  else
    match s.phase with
    | .closed => .ok .granted
    | .opened =>
      match s.remainingMs c now with
      | .error f => .error f
      | .ok 0 => .ok .granted
      | .ok (ms + 1) => .ok (.refused (some (ms + 1)))
    | .halfOpen => .ok (if s.inFlight.reaches c.probes then .refused none else .granted)

/-- An open breaker that lets a call through becomes half open. -/
def probe (s : State τ) (now : τ) : State τ × List Notice :=
  if s.phase = .opened then s.move now .halfOpen else (s, [])

/-- Admits a call. Only a half open breaker counts its calls, and gives a slot away. -/
def take (s : State τ) : State τ × Ticket :=
  if s.phase = .halfOpen then
    ({ s with inFlight := s.inFlight.next }, ⟨some s.transitions, false⟩)
  else (s, ⟨none, false⟩)

/-- Gives a slot back, once and only to the window that it was taken in. -/
def release (s : State τ) (t : Ticket) : State τ × Ticket :=
  match t.window with
  | none => (s, t)
  | some window =>
    if t.used then (s, t)
    else if s.transitions ≠ window then (s, { t with used := true })
    else ({ s with inFlight := s.inFlight.previous }, { t with used := true })

def recordSuccess (s : State τ) (c : Config) (now : τ) : State τ × List Notice :=
  if !c.isEnabled then (s, [])
  else
    match s.phase with
    | .halfOpen => s.move now .closed
    | .closed => ({ s with failures := 0 }, [])
    | .opened => (s, [])

def recordFailure (s : State τ) (c : Config) (now : τ) : State τ × List Notice :=
  if !c.isEnabled then (s, [])
  else
    match s.phase with
    | .halfOpen => s.move now .opened
    | .closed =>
      let s := { s with failures := s.failures.next }
      if s.failures.reaches c.threshold then s.move now .opened else (s, [])
    | .opened => (s, [])

def reset (s : State τ) (now : τ) : State τ × List Notice :=
  let (s, notices) := s.move now .closed
  ({ s with failures := 0 }, notices ++ [.reset])

end State

end ResilientCalls.Breaker
