import ResilientCalls.Duration
import ResilientCalls.Failure

namespace ResilientCalls.Duration

def Fault.failure : Fault → Failure
  | .tooLong digits => .foreign (.value (Text.tooLongMessage digits))
  | .unknownUnit unit => .foreign (.missingKey (.text unit))
  | .tooLarge => .foreign .tooLarge

/-- The milliseconds that a value stands for, if it is a duration. -/
def milliseconds? (j : Json) : Except Failure (Option Nat) :=
  match ofJson? j with
  | .ok ms => .ok ms
  | .error f => .error f.failure

def isAbsent : Json → Bool
  | .null => true
  | .text s => Text.allBlank s
  | _ => false

def invalid (j setting : Json) : Failure :=
  .configuration
    ("Invalid duration for " ++ setting.plain ++ ": " ++ j.shown ++
      " (expected e.g. '250ms', '60s', '5m')")
    setting

/-- The milliseconds that a setting is given as. -/
def ofSetting (j setting : Json) : Except Failure (Option Nat) :=
  if isAbsent j then .ok none
  else
    match milliseconds? j with
    | .ok none => .error (invalid j setting)
    | r => r

end ResilientCalls.Duration
