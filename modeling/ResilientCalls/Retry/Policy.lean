import ResilientCalls.Arguments
import ResilientCalls.Json.Equality
import ResilientCalls.Json.Number

namespace ResilientCalls.Retry

/-- How often an action is attempted, a number that need not be whole or finite. The wait after the
first failed attempt is the initial delay, and each further wait is longer by the backoff factor. -/
structure Policy where
  attempts : Number
  initialDelayMs : Binary64
  backoffFactor : Binary64
  attempts_inRange : attempts.isBelow 1 = false

namespace Policy

def outOfRange (field least value : String) : Failure :=
  .foreign (.value (field ++ " must be >= " ++ least ++ ", got " ++ value))

/-- A policy whose numbers are in range. -/
def make (attempts : Number) (initialDelayMs backoffFactor : Binary64) : Except Failure Policy :=
  if h : attempts.isBelow 1 = false then
    if initialDelayMs < 0 then .error (outOfRange "initial_delay_ms" "0" initialDelayMs.text)
    else if backoffFactor < 1 then .error (outOfRange "backoff_factor" "1" backoffFactor.text)
    else .ok ⟨attempts, initialDelayMs, backoffFactor, h⟩
  else .error (outOfRange "attempts" "1" attempts.toJson.plain)

def defaultAttempts : Nat := 3

def defaultBackoff : Binary64 := 2

def standard : Policy := ⟨.whole defaultAttempts, 250, defaultBackoff, rfl⟩

def summarizing : Policy := standard

def translating : Policy := ⟨.whole defaultAttempts, 500, defaultBackoff, rfl⟩

/-- The policy of a name; names that are not known mean summarizing. -/
def preset (name : String) : Policy := if name = "translation" then translating else summarizing

/-- The policy that a value names; only a text names another one than summarizing. -/
def presetOf (j : Json) : Except Foreign Policy :=
  match j with
  | .text name => .ok (preset name)
  | _ => j.checkKey.map fun _ => summarizing

def toJson (p : Policy) : Json :=
  .object [("attempts", p.attempts.toJson), ("initial_delay_ms", .float p.initialDelayMs),
    ("backoff_factor", .float p.backoffFactor)]

/-- The policy with some of its numbers replaced. -/
def revise (p : Policy) (attempts : Option Number)
    (initialDelayMs backoffFactor : Option Binary64) : Except Failure Policy :=
  make (attempts.getD p.attempts) (initialDelayMs.getD p.initialDelayMs)
    (backoffFactor.getD p.backoffFactor)

/-- The names that a policy's arguments may have. What it asks before a retry, and whom it tells of
one, can be named as well, but those are not values that a policy keeps. -/
def signature : Signature :=
  ⟨"RetryPolicy.__init__()", [],
    ["attempts", "initial_delay_ms", "backoff_factor", "should_retry", "on_retry"]⟩

/-- The policy with some of its numbers replaced by loosely given ones. -/
def ofArguments (p : Policy) (args : Arguments) : Except Failure Policy := do
  let double := fun (name : String) => (Json.get? name args).mapM Json.toFloat
  let delay ← double "initial_delay_ms"
  let factor ← double "backoff_factor"
  signature.check args
  let attempts ← (args.valueOr "attempts" p.attempts.toJson).comparable "<"
  p.revise (some attempts) delay factor

/-- A power with a whole exponent; a finite base must not give an infinite power. -/
def power (base : Binary64) (exponent : Nat) : Except Failure Binary64 :=
  let x := base.power exponent
  if x.isInfinite && !base.isInfinite then
    .error (.foreign (.outOfRange "(34, 'Numerical result out of range')"))
  else .ok x

/-- The wait after so many failed attempts. -/
def delayMs (p : Policy) (failed : Nat) : Except Failure Binary64 :=
  (power p.backoffFactor (failed - 1)).map (p.initialDelayMs * ·)

/-- The waits from the `k`-th on, `n` of them. -/
def delaysFrom (p : Policy) (k : Nat) : Nat → Except Failure (List Binary64)
  | 0 => .ok []
  | n + 1 => do
    let d ← p.delayMs k
    let rest ← p.delaysFrom (k + 1) n
    return d :: rest

/-- All waits of a policy; there is no list of them unless the number of attempts is whole. -/
def delays (p : Policy) : Except Failure (List Binary64) :=
  match p.attempts.value with
  | .inl n => p.delaysFrom 1 (n.toNat - 1)
  | .inr _ => .error (.foreign (.illTyped "'float' object cannot be interpreted as an integer"))

/-- More attempts than are ever made. -/
def unlimited : Nat := Nat.pow 2 64

/-- How many attempts are made at most: as many as it takes to reach the number of attempts. -/
def limit (p : Policy) : Nat :=
  match p.attempts.value with
  | .inl n => n.toNat
  | .inr x => (x.ceiling?.map Int.toNat).getD unlimited

end Policy

end ResilientCalls.Retry
