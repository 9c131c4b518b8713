import ResilientCalls.Arguments
import ResilientCalls.Duration.Setting
import ResilientCalls.Json.Number

namespace ResilientCalls.Breaker

/-- A breaker guards one dependency, named by its key. It opens after `threshold` failures in a row,
stays open for `recoveryMs` milliseconds and then lets `probes` calls at a time try the dependency.
-/
structure Config where
  key : Json
  enabled : Json
  threshold : Number
  recoveryMs : Number
  probes : Number
  key_holds : key.holds = true
  threshold_inRange : threshold.isBelow 1 = false
  recoveryMs_inRange : recoveryMs.isBelow 0 = false
  probes_inRange : probes.isBelow 1 = false

namespace Config

def defaultThreshold : Nat := 5

def defaultRecoveryMs : Nat := 60000

def defaultProbes : Nat := 1

def thresholdName : String := "failure_threshold"

def recoveryName : String := "recovery_timeout_ms"

def probesName : String := "half_open_max_calls"

def isEnabled (c : Config) : Bool := c.enabled.holds

def outOfRange (field : String) (least value : Number) : Failure :=
  .foreign (.value
    (field ++ " must be >= " ++ least.toJson.plain ++ ", got " ++ value.toJson.plain))

def keyRequired : Failure := .foreign (.value "Circuit breaker key is required")

/-- A configuration whose numbers are in range. -/
def make (key enabled : Json) (threshold recoveryMs probes : Number) : Except Failure Config :=
  if hk : key.holds = true then
    if ht : threshold.isBelow 1 = false then
      if hr : recoveryMs.isBelow 0 = false then
        if hp : probes.isBelow 1 = false then
          .ok ⟨key, enabled, threshold, recoveryMs, probes, hk, ht, hr, hp⟩
        else .error (outOfRange probesName 1 probes)
      else .error (outOfRange recoveryName 0 recoveryMs)
    else .error (outOfRange thresholdName 1 threshold)
  else .error keyRequired

def toJson (c : Config) : Json :=
  .object [("key", c.key), ("enabled", c.enabled), (thresholdName, c.threshold.toJson),
    (recoveryName, c.recoveryMs.toJson), (probesName, c.probes.toJson)]

/-- The default configuration for a key. -/
def standard (key : String) : Except Failure Config :=
  make (.text key) (.bool true) (.whole defaultThreshold) (.whole defaultRecoveryMs)
    (.whole defaultProbes)

def signature : Signature :=
  ⟨"CircuitBreakerConfig.__init__()", ["key"], ["enabled", thresholdName, recoveryName, probesName]⟩

/-- A number that is given loosely and must not be below `least`. -/
def atLeast (field : String) (least : Number) (j : Json) : Except Failure Number := do
  let n ← j.comparable "<"
  if n.isBelow least then throw (outOfRange field least n)
  return n

/-- The configuration that has the given arguments. -/
def ofArguments (args : Arguments) : Except Failure Config := do
  signature.check args
  let key := args.value "key"
  if !key.holds then throw keyRequired
  let threshold ← atLeast thresholdName 1 (args.valueOr thresholdName (.int defaultThreshold))
  let recoveryMs ← atLeast recoveryName 0 (args.valueOr recoveryName (.int defaultRecoveryMs))
  let probes ← atLeast probesName 1 (args.valueOr probesName (.int defaultProbes))
  make key (args.valueOr "enabled" (.bool true)) threshold recoveryMs probes

def optionsSignature : Signature :=
  ⟨"CircuitBreakerConfig.from_options()", ["key"],
    ["enabled", thresholdName, "recovery_timeout", recoveryName, probesName]⟩

/-- A count that is one at least; null stands for the default. -/
def clamped (default : Nat) (j : Json) : Except Failure Number := do
  let n ← if j.isNull then pure (.whole default) else j.comparable ">"
  return if n.exceeds 1 then n else 1

/-- The configuration that has the given options. Counts below one count as one, and a negative time
as none. A duration is used when the milliseconds are not given. -/
def ofOptions (args : Arguments) : Except Failure Config := do
  optionsSignature.check args
  let given := args.value recoveryName
  let recovery : Json ←
    if !given.isNull then pure given
    else do
      let ms ← Duration.milliseconds? (args.value "recovery_timeout")
      pure (.int (ms.getD defaultRecoveryMs))
  let threshold ← clamped defaultThreshold (args.value thresholdName)
  let recoveryMs := max 0 (← recovery.toInt)
  let probes ← clamped defaultProbes (args.value probesName)
  make (args.value "key") (args.valueOr "enabled" (.bool true)) threshold (.whole recoveryMs) probes

end Config

end ResilientCalls.Breaker
