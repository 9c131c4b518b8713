import ResilientCalls.World

namespace ResilientCalls

/-- The namespace of data when none is set. -/
def Datum.defaultNamespace : String := "AICore"

namespace Sink

variable {τ σ : Type}

/-- A new sink of a backend. -/
def make (b : Backend) : Run τ σ Sink := do
  let w ← Effect.get
  Effect.modify fun w => { w with ledgers := w.ledgers ++ [.empty] }
  return ⟨w.ledgers.length, b⟩

/-- The namespace to publish under: the one given, or the environment's if that holds nothing. -/
def namespaceOr (given : Json) : Run τ σ Json := do
  if given.holds then return given
  return .text ((← Run.setting? "METRICS_NAMESPACE").getD Datum.defaultNamespace)

/-- A new sink of the named backend, the environment's if none is given. Names that are not known
mean the log. -/
def ofName (name given : Json) : Run τ σ Sink := do
  let name : String ←
    if name.holds then Effect.ofForeign (name.textFor "lower")
    else do pure ((← Run.setting? "METRICS_BACKEND").getD "log")
  match name.toLower with
  | "memory" => make .memory
  | "cloudwatch" => do make (.cloudWatch (← namespaceOr given))
  | _ => make .log

/-- The sink that is shared by all who were given none; it is made when it is first needed. -/
def shared : Run τ σ Sink := do
  let w ← Effect.get
  match w.sharedSink with
  | some s => return s
  | none => do
    let s ← ofName .null .null
    Effect.modify fun w => { w with sharedSink := some s }
    return s

def publish (namespace_ : Json) (d : Datum) : Run τ σ Unit := do
  Effect.modify fun w => { w with published := w.published ++ [(namespace_, d)] }
  let w ← Effect.get
  match w.delivery with
  | .accepted => return ()
  | .refused reason =>
    Run.logged ⟨.warning, "Failed to publish metric",
      [("service", .text "cloudwatch_metrics"), ("metric", d.name), ("error", .text reason)]⟩
  | .broken f => Effect.fail f

def record (s : Sink) (m : Metric) : Run τ σ Unit :=
  match s.backend with
  | .memory => do
    let m ← Effect.ofForeign m.kept
    Effect.modify fun w => w.modifyLedger s (·.add m)
  | .log => Run.logged m.logRecord
  | .cloudWatch namespace_ => do publish namespace_ (← Effect.ofExcept (Datum.ofMetric m))

def recordRequest (s : Sink) (r : RequestMetric) : Run τ σ Unit :=
  match s.backend with
  | .memory => Effect.modify fun w => w.modifyLedger s (·.addRequest r)
  | .log => Run.logged r.logRecord
  | .cloudWatch namespace_ => publish namespace_ (Datum.ofRequest r)

/-- The sink given, or the shared one. -/
def orShared : Option Sink → Run τ σ Sink
  | some s => return s
  | none => shared

/-- Counts one observation at the sink given, or at the shared one. -/
def count (s : Option Sink) (name : String) (labels : List (String × Json)) : Run τ σ Unit := do
  (← orShared s).record ⟨.text name, .int 1, .object labels⟩

end Sink

end ResilientCalls
