import ResilientCalls.Json.Items
import ResilientCalls.World

namespace ResilientCalls.Fault

variable {τ σ : Type}

def wildcard : String := "*"

def flagVariable : String := "FAULT_INJECTION"

/-- The texts among flags that are given loosely; those that hold nothing are left out. -/
def textsOf : List Json → Except Foreign (List String)
  | [] => .ok []
  | .text s :: rest => (textsOf rest).map (s :: ·)
  | j :: rest => if j.holds then .error (.noAttribute j.typeName "strip") else textsOf rest

/-- Trimmed flags without blank and repeated ones. -/
def parseFlags (raw : List String) : List String :=
  ((raw.map Text.trimmed).filter (· ≠ "")).eraseDups

/-- The flags that a variable lists between commas. -/
def listedFlags (raw : String) : List String :=
  parseFlags ((raw.toList.splitOn ',').map String.ofList)

def enables (flags : List String) (identifier : String) : Bool :=
  wildcard ∈ flags || identifier ∈ flags

def environmentFlags (environment : List (String × String)) : List String :=
  listedFlags ((Json.get? flagVariable environment).getD "")

/-- Is the checkpoint enabled for the whole process? -/
def isEnabled (w : World τ σ) (identifier : String) : Bool :=
  enables (w.processFlags ++ environmentFlags w.environment) identifier

/-- Adds flags to those of the process. -/
def addFlags (flags : List String) : Run τ σ Unit :=
  Effect.modify fun w => { w with processFlags := (w.processFlags ++ parseFlags flags).eraseDups }

def enabledRecord (identifier : Json) : LogRecord :=
  ⟨.warning, "Fault injection enabled", [("identifier", identifier)]⟩

def injectingRecord (identifier : Json) : LogRecord :=
  ⟨.debug, "Injecting fault", [("identifier", identifier)]⟩

def enable (identifier : String) : Run τ σ Unit := do
  addFlags [identifier]
  Run.logged (enabledRecord (.text identifier))

/-- Disables one checkpoint, or all. -/
def disable (identifier : Option String) : Run τ σ Unit :=
  Effect.modify fun w =>
    match identifier with
    | none => { w with processFlags := [] }
    | some i => { w with processFlags := w.processFlags.filter (· ≠ Text.trimmed i) }

/-- A caller's own flags, and whether those of the process count too. -/
structure Harness where
  flags : List String
  heedsProcess : Bool

def Harness.make (flags : List String) (heedsProcess : Bool) : Harness :=
  ⟨parseFlags flags, heedsProcess⟩

/-- The harness of flags that are given loosely. -/
def Harness.ofJson (flags : Json) (heedsProcess : Bool) : Except Foreign Harness := do
  return .make (← textsOf (← flags.items)) heedsProcess

def Harness.isEnabled (h : Harness) (w : World τ σ) (identifier : String) : Bool :=
  enables h.flags identifier || (h.heedsProcess && Fault.isEnabled w identifier)

/-- Stops at an enabled checkpoint in the given way. -/
def Harness.injectAs (h : Harness) (identifier : String) (e : Stop) : Run τ σ Unit := do
  let w ← Effect.get
  if h.isEnabled w identifier then
    Run.logged (injectingRecord (.text identifier))
    Effect.stop e
  else pure ()

/-- Fails at an enabled checkpoint. -/
def Harness.inject (h : Harness) (identifier : String) : Run τ σ Unit :=
  h.injectAs identifier (.failed (.injected identifier))

end ResilientCalls.Fault
