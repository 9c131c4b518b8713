import ResilientCalls.Text.CodePoint
import ResilientCalls.Text.Printable

namespace ResilientCalls.Text

def hexDigit (n : Nat) : Char := Char.ofNat (if n < 10 then 48 + n else 87 + n)

/-- The lowest `width` hexadecimal digits of a number. -/
def hexPadded : (width : Nat) → Nat → List Char
  | 0, _ => []
  | w + 1, n => hexPadded w (n / 16) ++ [hexDigit (n % 16)]

/-- The lowest hexadecimal digits of a code point after a mark that tells their number. -/
def escapedCode (code : Nat) : List Char :=
  if code < 0x100 then '\\' :: 'x' :: hexPadded 2 code
  else if code < 0x10000 then '\\' :: 'u' :: hexPadded 4 code
  else '\\' :: 'U' :: hexPadded 8 code

def quotedChar (quote c : Char) : List Char :=
  if c = quote ∨ c = '\\' then ['\\', c]
  else if c = '\n' then ['\\', 'n']
  else if c = '\r' then ['\\', 'r']
  else if c = '\t' then ['\\', 't']
  else if isPrintable c then [c] else escapedCode c.toNat

/-- A surrogate has no printed form. -/
def quotedPoint (quote : Char) : CodePoint → List Char
  | .char c => quotedChar quote c
  | .surrogate distance => escapedCode (CodePoint.firstSurrogate + distance)

def quoteMark (ps : CodePoints) : Char :=
  if ps.contains '\'' && !ps.contains '"' then '"' else '\''

/-- Code points as messages show them. -/
def quotedPoints (ps : CodePoints) : String :=
  let q := quoteMark ps
  String.ofList (q :: ps.flatMap (quotedPoint q) ++ [q])

/-- A text as messages show it. -/
def quoted (s : String) : String := quotedPoints (CodePoints.ofString s)

end ResilientCalls.Text
