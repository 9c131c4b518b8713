import ResilientCalls.Metric.Sink

namespace ResilientCalls.Breaker

variable {τ σ α : Type}

def transitionMetric : String := "ai.circuit_breaker.transition"

def blockedMetric : String := "ai.circuit_breaker.blocked"

def Cell.logRecord (c : Cell τ) (level : Level) (event : String) (fields : List (String × Json)) :
    LogRecord :=
  ⟨level, event, [("service", .text "circuit_breaker"), ("key", c.key)] ++ fields⟩

/-- Counts and logs what a breaker reports. Counters have the key of its configuration. -/
def announce (c : Cell τ) : Notice → Run τ σ Unit
  | .moved before after => do
    Sink.count none transitionMetric [("key", c.config.key), ("state", .text after.name)]
    Run.logged (c.logRecord (if after = .opened then .error else .info)
      "Circuit breaker state transition"
      [("old_state", .text before.name), ("new_state", .text after.name)])
  | .blocked phase retryAfterMs => do
    Sink.count none blockedMetric [("key", c.config.key), ("state", .text phase.name)]
    Run.logged (c.logRecord .warning "Circuit breaker blocked request"
      [("state", .text phase.name),
        ("retry_after_ms", Json.ofOption (fun ms : Nat => .int ms) retryAfterMs)])
  | .reset => Run.logged (c.logRecord .info "Circuit breaker manually reset" [])

def announceAll (c : Cell τ) : List Notice → Run τ σ Unit
  | [] => pure ()
  | n :: rest => do
    announce c n
    announceAll c rest

/-- The breaker of a number. -/
def cell (id : Id) : Run τ σ (Option (Cell τ)) := do return (← Effect.get).registry.cell? id

/-- Takes a step of the state and announces it. -/
def advance (id : Id) (step : State τ → Config → τ → State τ × List Notice) : Run τ σ Unit := do
  let w ← Effect.get
  match w.registry.cell? id with
  | none => pure ()
  | some c =>
    let (s, notices) := step c.state c.config w.now
    Effect.modify fun w => { w with registry := w.registry.setState id s }
    announceAll c notices

def recordSuccess (id : Id) : Run τ σ Unit := advance id State.recordSuccess

def recordFailure (id : Id) : Run τ σ Unit := advance id State.recordFailure

def reset (id : Id) : Run τ σ Unit := advance id fun s _ now => s.reset now

/-- The breaker of a key, if there is one. -/
def lookUp (key : Json) : Run τ σ (Option Id) := do
  Effect.ofForeign key.checkKey
  return (← Effect.get).registry.find? key

/-- Resets the breaker of a key, if there is one. -/
def resetKey (key : Json) : Run τ σ Unit := do
  match ← lookUp key with
  | some id => reset id
  | none => return ()

/-- Gives a breaker a new configuration under the same key. -/
def configure (id : Id) (config : Config) : Run τ σ Unit := do
  match ← cell id with
  | none => pure ()
  | some c =>
    if !config.key.equals c.config.key then
      Effect.fail (.foreign (.value
        ("Cannot re-key breaker '" ++ c.config.key.plain ++ "' to '" ++ config.key.plain ++ "'")))
    else Effect.modify fun w => { w with registry := w.registry.setConfig id config }

/-- The breaker of a configuration's key, made if there is none, and whether it was made. -/
def enroll (config : Config) : Run τ σ (Id × Bool) := do
  match ← lookUp config.key with
  | some id => do
    configure id config
    return (id, false)
  | none => do
    let w ← Effect.get
    let (registry, id) := w.registry.add config
    Effect.modify fun w => { w with registry }
    Run.logged ⟨.debug, "Created circuit breaker",
      [("service", .text "circuit_breaker_registry"), ("key", config.key),
        ("enabled", config.enabled), ("failure_threshold", config.threshold.toJson),
        ("recovery_timeout_ms", config.recoveryMs.toJson)]⟩
    return (id, true)

/-- Takes a slot of a breaker that gives slots away. -/
def take (id : Id) : Run τ σ Ticket := do
  match ← cell id with
  | none => pure ⟨none, false⟩
  | some c => do
    let (s, ticket) := c.state.take
    Effect.modify fun w => { w with registry := w.registry.setState id s }
    pure ticket

/-- Ends an admitted call, and gives the ticket as it is afterwards. -/
def release (id : Id) (t : Ticket) : Run τ σ Ticket := do
  match ← cell id with
  | none => pure t
  | some c => do
    let (s, t) := c.state.release t
    Effect.modify fun w => { w with registry := w.registry.setState id s }
    pure t

variable [Clock τ]

/-- Refuses unless a call may be made now; takes no slot. -/
def check (id : Id) : Run τ σ Unit := do
  let w ← Effect.get
  match w.registry.cell? id with
  | none => pure ()
  | some c =>
    match ← Effect.ofExcept (c.state.verdict c.config w.now) with
    | .granted => pure ()
    | .refused retryAfterMs => do
      announce c (.blocked c.state.phase retryAfterMs)
      Effect.fail (.circuitOpen c.config.key c.state.phase.name (retryAfterMs.map Int.ofNat))

/-- Admits a call, or refuses it. -/
def enter (id : Id) : Run τ σ Ticket := do
  match ← cell id with
  | none => pure ⟨none, false⟩
  | some c =>
    if !c.config.isEnabled then pure ⟨none, false⟩
    else do
      check id
      advance id fun s _ now => s.probe now
      take id

/-- What calls ask of a breaker. -/
structure Guard (s : Type) where
  check : Effect s Unit
  enter : Effect s Ticket
  succeed : Effect s Unit
  fail : Effect s Unit
  release : Ticket → Effect s Unit

/-- The breaker of a number as a guard. -/
def guard (id : Id) : Guard (World τ σ) where
  check := check id
  enter := enter id
  succeed := recordSuccess id
  fail := recordFailure id
  release t := do let _ ← release id t

namespace Guard

variable {s : Type}

/-- Admits a body; its slot is given back however it ends. -/
def hold (g : Guard s) (body : Effect s α) : Effect s α := do
  let ticket ← g.enter
  Effect.thereafter body (g.release ticket)

/-- Reports how a body ends; a cancellation is no outcome. -/
def reporting (g : Guard s) (body : Effect s α) : Effect s α := do
  let r ← Effect.ending do
    let a ← body
    g.succeed
    pure a
  match r with
  | .error (.failed _) => g.fail
  | _ => pure ()
  Effect.conclude r

/-- Makes a call under guard. -/
def call (g : Guard s) (body : Effect s α) : Effect s α := g.hold (g.reporting body)

end Guard

/-- Admits a body to the breaker of a number. -/
def holding (id : Id) (body : Run τ σ α) : Run τ σ α := (guard id).hold body

end ResilientCalls.Breaker
