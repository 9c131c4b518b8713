import ResilientCalls.Json.Value
import ResilientCalls.Text.Blank
import ResilientCalls.Text.Digit

namespace ResilientCalls.Duration

inductive Scale where
  | milliseconds
  | seconds
  | minutes
  | hours
  deriving DecidableEq

def Scale.factor : Scale → Nat
  | .milliseconds => 1
  | .seconds => 1000
  | .minutes => 60000
  | .hours => 3600000

/-- Why a well-formed duration has no value. -/
inductive Fault where
  /-- More digits than are converted. -/
  | tooLong (digits : Nat)
  /-- A unit spelled with the long s. -/
  | unknownUnit (unit : String)
  /-- A whole number past the range of doubles. -/
  | tooLarge
  deriving DecidableEq

/-- The digits at the start of a text, latest first, and the rest. -/
def splitDigits (done : List Nat) : List Char → List Nat × List Char
  | [] => (done, [])
  | c :: rest =>
    match Text.digitValue? c with
    | some d => splitDigits (d :: done) rest
    | none => (done, c :: rest)

def longS : Char := '\u017F'

/-- The unit that a trimmed text spells: `some none` for a unit in the wrong letters. -/
def unit? (cs : List Char) : Option (Except Fault Scale) :=
  match cs with
  | [] => some (.ok .seconds)
  | [c] =>
    if c.toLower = 's' then some (.ok .seconds)
    else if c.toLower = 'm' then some (.ok .minutes)
    else if c.toLower = 'h' then some (.ok .hours)
    else if c = longS then some (.error (.unknownUnit (String.ofList cs)))
    else none
  | [c, d] =>
    if c.toLower = 'm' then
      if d.toLower = 's' then some (.ok .milliseconds)
      else if d = longS then some (.error (.unknownUnit (String.ofList ['m', d])))
      else none
    else none
  | _ => none

/-- The duration that a text writes, in milliseconds. -/
def ofText? (s : String) : Except Fault (Option Nat) :=
  let (digits, rest) := splitDigits [] (Text.trimStart s.toList)
  if digits.isEmpty then .ok none
  else match unit? (Text.trim rest) with
    | none => .ok none
    | some unit =>
      if Text.maxDigits < digits.length then .error (.tooLong digits.length)
      else unit.map fun scale => some (Text.ofDigits digits.reverse * scale.factor)

/-- The duration that a value stands for, in milliseconds. -/
def ofJson? : Json → Except Fault (Option Nat)
  | .text s => ofText? s
  | .int n =>
    if (Binary64.ofInt? n).isNone then .error .tooLarge
    else .ok (if 0 ≤ n then some n.toNat else none)
  | .float x =>
    .ok (if x < 0 then none else x.truncate?.map Int.toNat)
  | _ => .ok none

end ResilientCalls.Duration
