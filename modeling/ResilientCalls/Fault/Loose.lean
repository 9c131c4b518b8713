import ResilientCalls.Fault
import ResilientCalls.Json.Equality

namespace ResilientCalls.Fault

variable {τ σ : Type}

/-- Do flags enable what a value names? -/
def enablesValue (flags : List String) (identifier : Json) : Except Foreign Bool := do
  if wildcard ∈ flags then return true
  identifier.checkKey
  match identifier with
  | .text name => return name ∈ flags
  | _ => return false

def isValueEnabled (w : World τ σ) (identifier : Json) : Except Foreign Bool :=
  enablesValue (w.processFlags ++ environmentFlags w.environment) identifier

def Harness.isValueEnabled (h : Harness) (w : World τ σ) (identifier : Json) :
    Except Foreign Bool := do
  if ← enablesValue h.flags identifier then return true
  if h.heedsProcess then Fault.isValueEnabled w identifier else return false

/-- Enables the checkpoint that a value names; one that holds nothing names none. -/
def enableValue (identifier : Json) : Run τ σ Unit := do
  let names ← Effect.ofForeign (textsOf [identifier])
  addFlags names
  Run.logged (enabledRecord identifier)

/-- Disables the checkpoint that a value names, or all for null. -/
def disableValue (identifier : Json) : Run τ σ Unit := do
  if identifier.isNull then disable none
  else disable (some (← Effect.ofForeign (identifier.textFor "strip")))

/-- Stops at an enabled checkpoint, in the given way or else by a failure that names it. -/
def Harness.injectValue (h : Harness) (identifier : Json) (e : Option Stop) : Run τ σ Unit := do
  if ← Effect.ofForeign (h.isValueEnabled (← Effect.get) identifier) then
    Run.logged (injectingRecord identifier)
    Effect.stop (e.getD (.failed (.injected identifier.plain)))
  else pure ()

end ResilientCalls.Fault
