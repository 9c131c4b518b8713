import ResilientCalls.Json.Dictionary
import ResilientCalls.Json.Number
import ResilientCalls.Log

namespace ResilientCalls

/-- One observation of a counter. -/
structure Metric where
  name : Json
  value : Json
  labels : Json

namespace Metric

def toJson (m : Metric) : Json :=
  .object [("name", m.name), ("value", m.value), ("labels", m.labels)]

/-- The labels, none if what is given holds nothing. -/
def givenLabels (m : Metric) : Json := if m.labels.holds then m.labels else .object []

/-- The observation as it is kept, with its labels by name. -/
def kept (m : Metric) : Except Foreign Metric := do
  return { m with labels := .object (← m.givenLabels.dictionary) }

end Metric

/-- The outcome of one request to a provider. -/
structure RequestMetric where
  route : Json
  method : Json
  status : Json
  durationMs : Binary64
  service : Json

/-- The fields that do not depend on how long a request took. -/
def RequestMetric.fields (r : RequestMetric) : List (String × Json) :=
  [("route", r.route), ("method", r.method), ("status", r.status), ("service", r.service)]

/-- What was observed, in order. -/
structure Ledger where
  metrics : List Metric
  requests : List RequestMetric

namespace Ledger

def empty : Ledger := ⟨[], []⟩

def add (l : Ledger) (m : Metric) : Ledger := { l with metrics := l.metrics ++ [m] }

def addRequest (l : Ledger) (r : RequestMetric) : Ledger :=
  { l with requests := l.requests ++ [r] }

/-- The observations of one counter. -/
def find (l : Ledger) (name : Json) : List Metric := l.metrics.filter (·.name.equals name)

end Ledger

/-- A measurement as it is published. -/
structure Datum where
  name : Json
  value : Binary64
  unit : String
  dimensions : List (String × String)

namespace Datum

/-- A datum has at most so many dimensions. -/
def maxDimensions : Nat := 30

/-- Labels in the order of their names, without those that are null. -/
def dimensionsOf (labels : List (String × Json)) : List (String × String) :=
  let ordered := labels.mergeSort fun a b => a.1 ≤ b.1
  let present := ordered.filter fun l => !l.2.isNull
  (present.map fun l => (l.1, l.2.plain)).take maxDimensions

/-- The datum of a counter, whose value may be a text that writes a number. -/
def ofMetric (m : Metric) : Except Failure Datum := do
  let value ← m.value.toFloat
  match m.givenLabels with
  | .object labels => return ⟨m.name, value, "Count", dimensionsOf labels⟩
  | j => throw (.foreign (.noAttribute j.typeName "items"))

def ofRequest (r : RequestMetric) : Datum :=
  ⟨.text "ai.provider.request_duration", r.durationMs, "Milliseconds",
    dimensionsOf r.fields⟩

/-- The request that publishes a datum under a namespace. -/
def toJson (namespace_ : Json) (d : Datum) : Json :=
  .object [("Namespace", namespace_), ("MetricData", .list [.object
    [("MetricName", d.name), ("Value", .float d.value), ("Unit", .text d.unit),
      ("Dimensions", .list (d.dimensions.map fun p =>
        .object [("Name", .text p.1), ("Value", .text p.2)]))]])]

end Datum

def Metric.logRecord (m : Metric) : LogRecord :=
  ⟨.info, "metric",
    [("service", .text "metrics"), ("metric", m.name), ("value", m.value),
      ("labels", m.givenLabels)]⟩

def RequestMetric.logRecord (r : RequestMetric) : LogRecord :=
  ⟨.info, "request_metric",
    [("service", .text "metrics"), ("route", r.route), ("method", r.method),
      ("status", r.status), ("duration_ms", .float (r.durationMs.roundPlaces 2)),
      ("upstream", r.service)]⟩

/-- Where the observations of a sink go. -/
inductive Backend where
  | memory
  | log
  | cloudWatch (namespace_ : Json)

def Backend.isMemory : Backend → Bool
  | .memory => true
  | _ => false

/-- A destination of observations; sinks made one after another have different numbers. -/
structure Sink where
  number : Nat
  backend : Backend

end ResilientCalls
