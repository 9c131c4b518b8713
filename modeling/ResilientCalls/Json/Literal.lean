import ResilientCalls.Json.Value

namespace ResilientCalls.Json

/-- What a string becomes once its closing quote is read. -/
inductive Purpose where
  | value
  | name (done : List (CodePoints × Document))

/-- Where the reading of a string stands. -/
inductive Escape where
  | none
  /-- The character before was the last digit of the code unit whose `u` stands at `place`. -/
  | ended (place : Nat)
  | backslash (place : Nat)
  | codeUnit (place : Nat) (digits : Nat) (unit : Nat)

/-- A string that is being read, its code points latest first. `high` is a leading surrogate that
waits for its partner. -/
structure Literal where
  start : Nat
  purpose : Purpose
  done : CodePoints
  escape : Escape
  high : Option Nat

def hexValue? (c : Char) : Option Nat :=
  if c.isDigit then some (c.toNat - 48)
  else if 'a' ≤ c && c ≤ 'f' then some (c.toNat - 87)
  else if 'A' ≤ c && c ≤ 'F' then some (c.toNat - 55)
  else none

def isHigh (unit : Nat) : Bool := 0xD800 ≤ unit && unit < 0xDC00

def isLow (unit : Nat) : Bool := 0xDC00 ≤ unit && unit < 0xE000

/-- A surrogate that no partner follows stays alone. -/
def Literal.settle (s : Literal) : Literal :=
  match s.high with
  | none => s
  | some high => { s with done := .ofNat high :: s.done, high := none }

def Literal.push (s : Literal) (p : CodePoint) : Literal :=
  let s := s.settle
  { s with done := p :: s.done, escape := .none }

/-- Adds a complete code unit; a low surrogate joins the high one before it. -/
def Literal.pushUnit (s : Literal) (place unit : Nat) : Literal :=
  let s : Literal := match s.high with
    | some high =>
      if isLow unit then
        { s with
          done := .ofNat (0x10000 + (high - 0xD800) * 0x400 + (unit - 0xDC00)) :: s.done
          high := none }
      else if isHigh unit then { s.settle with high := some unit }
      else s.push (.ofNat unit)
    | none => if isHigh unit then { s with high := some unit } else s.push (.ofNat unit)
  { s with escape := .ended place }

/-- What the character after a backslash stands for. -/
def escaped? : Char → Option Char
  | '"' => some '"'
  | '\\' => some '\\'
  | '/' => some '/'
  | 'b' => some '\x08'
  | 'f' => some '\x0C'
  | 'n' => some '\n'
  | 'r' => some '\r'
  | 't' => some '\t'
  | _ => none

end ResilientCalls.Json
