import ResilientCalls.Binary64
import ResilientCalls.Text.Blank
import ResilientCalls.Text.Digit

namespace ResilientCalls.Text

/-- Blanks that may stand around a number; the separator control characters are not among them. -/
def isMargin (c : Char) : Bool := isBlank c && !(0x1C ≤ c.toNat && c.toNat ≤ 0x1F)

def withoutMargin (cs : List Char) : List Char :=
  ((cs.dropWhile isMargin).reverse.dropWhile isMargin).reverse

/-- The rest of a text after its sign, and whether that is a minus. -/
def cutSign : List Char → Bool × List Char
  | '-' :: rest => (true, rest)
  | '+' :: rest => (false, rest)
  | cs => (false, cs)

/-- A digit of any script as one of ASCII. -/
def asciiDigit (c : Char) : Char :=
  match digitValue? c with
  | some d => Char.ofNat (48 + d)
  | none => c

/-- Does every underscore stand between two digits? `after` says that a digit comes just before. -/
def underscoresFit (after : Bool) : List Char → Bool
  | [] => true
  | '_' :: rest => after && rest.head?.any Char.isDigit && underscoresFit false rest
  | c :: rest => underscoresFit c.isDigit rest

/-- What a text of a whole number reads as. -/
inductive Whole where
  | integer (n : Int)
  | tooLong (digits : Nat)
  | malformed

/-- The whole number that a text writes. Too many digits are refused whatever follows them. -/
def wholeNumber (cs : List Char) : Whole :=
  let (negative, cs) := cutSign ((withoutMargin cs).map asciiDigit)
  let isPart := fun c : Char => c.isDigit || c = '_'
  let run := cs.takeWhile isPart
  let digits := run.filter Char.isDigit
  if !underscoresFit false run then .malformed
  else if maxDigits < digits.length then .tooLong digits.length
  else if digits = [] || cs.dropWhile isPart ≠ [] then .malformed
  else
    let n := ofDigits (digits.map fun c => c.toNat - 48)
    .integer (if negative then -(n : Int) else n)

/-- The integer that a text writes. -/
def writtenInt? (cs : List Char) : Option Int :=
  match wholeNumber cs with
  | .integer n => some n
  | _ => none

def digitsValue (cs : List Char) : Nat := ofDigits (cs.map fun c => c.toNat - 48)

/-- The power of ten after a mantissa; without a mark it is zero. -/
def writtenExponent? : List Char → Option Int
  | [] => some 0
  | c :: rest =>
    let (negative, cs) := cutSign rest
    if c.toLower = 'e' && cs ≠ [] && cs.all Char.isDigit then
      some (if negative then -(digitsValue cs : Int) else digitsValue cs)
    else none

/-- The double nearest to an unsigned decimal, which has a digit before or after its point. -/
def writtenDecimal? (negative : Bool) (cs : List Char) : Option Binary64 :=
  let whole := cs.takeWhile Char.isDigit
  let (fraction, rest) := match cs.dropWhile Char.isDigit with
    | '.' :: rest => (rest.takeWhile Char.isDigit, rest.dropWhile Char.isDigit)
    | rest => ([], rest)
  if whole = [] && fraction = [] then none
  else
    (writtenExponent? rest).map fun e =>
      Binary64.ofDecimal negative (digitsValue (whole ++ fraction)) (e - fraction.length)

/-- The double that a text writes, in decimals or by name. -/
def writtenFloat? (cs : List Char) : Option Binary64 :=
  let cs := (withoutMargin cs).map asciiDigit
  let (negative, unsigned) := cutSign (cs.filter (· ≠ '_'))
  let word := String.ofList (unsigned.map Char.toLower)
  if !underscoresFit false cs then none
  else if word = "inf" || word = "infinity" then some (Binary64.infinity negative)
  else if word = "nan" then some (Binary64.noNumber negative)
  else writtenDecimal? negative unsigned

end ResilientCalls.Text
