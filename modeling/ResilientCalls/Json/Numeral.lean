import ResilientCalls.Json.Refusal
import ResilientCalls.Json.Value

namespace ResilientCalls.Json

/-- The part of a number that the latest character belongs to. A point or an exponent mark is part
of the number only if a digit follows; until then its place is kept. -/
inductive Part where
  | minus
  | zero
  | whole
  | point (place : Nat)
  | fraction
  | mark (place : Nat)
  | sign (place : Nat)
  | exponent

/-- A number that is being read; digits are kept latest first. -/
structure Numeral where
  start : Nat
  part : Part
  negative : Bool
  whole : List Char
  fraction : List Char
  inverse : Bool
  exponent : List Char

def Numeral.digitsValue (latestFirst : List Char) : Nat :=
  latestFirst.foldr (fun c n => 10 * n + (c.toNat - 48)) 0

/-- The value of the digits read so far, without a point or mark that nothing follows. -/
def Numeral.value (n : Numeral) : Except Refusal Document :=
  if n.fraction.isEmpty && n.exponent.isEmpty then
    if Text.maxDigits < n.whole.length then .error (.tooLong n.whole.length)
    else
      let m := digitsValue n.whole
      .ok (.int (if n.negative then -(m : Int) else m))
  else
    let e := digitsValue n.exponent
    .ok (.float (Binary64.ofDecimal n.negative (digitsValue (n.fraction ++ n.whole))
      ((if n.inverse then -(e : Int) else e) - n.fraction.length)))

/-- The digit, point or mark that continues a number, if the character does. -/
def Numeral.extend? (n : Numeral) (place : Nat) (c : Char) : Option Numeral :=
  match n.part with
  | .minus =>
    if c = '0' then some { n with part := .zero, whole := [c] }
    else if c.isDigit then some { n with part := .whole, whole := [c] }
    else none
  | .zero | .whole =>
    if c = '.' then some { n with part := .point place }
    else if c = 'e' || c = 'E' then some { n with part := .mark place }
    else match n.part with
      | .whole => if c.isDigit then some { n with whole := c :: n.whole } else none
      | _ => none
  | .point _ => if c.isDigit then some { n with part := .fraction, fraction := [c] } else none
  | .fraction =>
    if c.isDigit then some { n with fraction := c :: n.fraction }
    else if c = 'e' || c = 'E' then some { n with part := .mark place }
    else none
  | .mark p =>
    if c = '-' || c = '+' then some { n with part := .sign p, inverse := c = '-' }
    else if c.isDigit then some { n with part := .exponent, exponent := [c] }
    else none
  | .sign _ => if c.isDigit then some { n with part := .exponent, exponent := [c] } else none
  | .exponent => if c.isDigit then some { n with exponent := c :: n.exponent } else none

end ResilientCalls.Json
