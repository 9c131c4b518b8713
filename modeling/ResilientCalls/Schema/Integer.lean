import ResilientCalls.Text.Written

namespace ResilientCalls.Schema

/-- What a text reads as. -/
inductive WrittenInteger where
  | integer (n : Int)
  | oversized
  | malformed

/-- The text without its sign, and whether that is a minus; a second sign is refused. -/
def unsigned? (cs : List Char) : Option (Bool × List Char) :=
  match cs with
  | '+' :: '-' :: _ => none
  | '+' :: rest => some (false, rest)
  | '-' :: '-' :: _ => none
  | '-' :: '+' :: _ => none
  | '-' :: rest => some (true, rest)
  | _ => some (false, cs)

def isLeading (c : Char) : Bool := c = '-' || ('1' ≤ c && c ≤ '9')

/-- The number after its leading zeros, of which `last` is the latest character. The last one stays
if nothing or a fraction follows. -/
def withoutZeros (last : Char) : List Char → Option (List Char)
  | [] => some [last]
  | c :: rest =>
    if c = '0' || c = '_' then withoutZeros c rest
    else if isLeading c then some (c :: rest)
    else if c = '.' then some (last :: c :: rest)
    else none

/-- The number before a fraction of zeros. -/
def withoutFraction (cs : List Char) : List Char :=
  match cs.dropWhile (· ≠ '.') with
  | _ :: zero :: zeros =>
    if (zero :: zeros).all (· = '0') then cs.takeWhile (· ≠ '.') else cs
  | _ => cs

/-- Does an underscore follow another one? -/
def hasDouble : List Char → Bool
  | '_' :: '_' :: _ => true
  | _ :: rest => hasDouble rest
  | [] => false

/-- Single underscores inside a number are left out. -/
def withoutUnderscores (cs : List Char) : List Char :=
  if cs.head? = some '_' || cs.getLast? = some '_' || hasDouble cs then cs
  else cs.filter (· ≠ '_')

/-- The number that digits write, after a minus sign that stands before them or stood before the
text; both are one too many. -/
def plainInteger (negative : Bool) (cs : List Char) : WrittenInteger :=
  match negative, cs with
  | true, '-' :: _ => .malformed
  | _, _ =>
    let (minus, digits) := match cs with
      | '-' :: rest => (true, rest)
      | _ => (negative, cs)
    match digits with
    | ['0'] => .integer 0
    | c :: _ =>
      let run := digits.takeWhile Char.isDigit
      if !('1' ≤ c && c ≤ '9') then .malformed
      else if Text.maxDigits < run.length || run.length < digits.length then .malformed
      else .integer (if minus then -(Text.digitsValue run : Int) else Text.digitsValue run)
    | [] => .malformed

/-- Does a text begin with too many digits, the first of them not zero? -/
def isOversized (cs : List Char) : Bool :=
  let digits := if cs.head? = some '-' then cs.drop 1 else cs
  digits.head? ≠ some '0' && Text.maxDigits < (digits.takeWhile Char.isDigit).length

/-- The integer that a text writes: with blanks around it, a sign, zeros before the first other
digit, single underscores between digits and a fraction of zeros. -/
def writtenInteger (cs : List Char) : WrittenInteger :=
  let number : Option (Bool × List Char) := do
    let (negative, cs) ← unsigned? (Text.withoutMargin cs)
    let cs ← match cs with
      | '0' :: rest => withoutZeros '0' rest
      | c :: _ => if isLeading c then some cs else none
      | [] => none
    return (negative, withoutUnderscores (withoutFraction cs))
  if isOversized cs then .oversized
  else
    match number with
    | some (negative, cs) => plainInteger negative cs
    | none => .malformed

end ResilientCalls.Schema
