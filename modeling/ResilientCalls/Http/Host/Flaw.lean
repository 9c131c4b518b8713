import ResilientCalls.Failure

namespace ResilientCalls.Http.Host

inductive Flaw where
  | longName
  | longLabel
  | emptyLabel
  | notComposed
  | innerHyphens
  | outerHyphen
  | leadingMark
  /-- A character that no label holds. -/
  | character (code place : Nat)
  /-- A character that its neighbours do not suit. -/
  | neighbours (code place : Nat)
  /-- A joiner that its neighbours do not suit. -/
  | joiner (code place : Nat)
  /-- A joiner after a character that has no name. -/
  | afterNameless (code place : Nat)
  | unknownDirection (place : Nat)
  | firstDirection
  | direction (rightToLeft : Bool) (place : Nat)
  | mixedNumbers
  | lastDirection
  | nothingEncoded
  | trailingHyphen
  | unreadable
  /-- The encoded form is not the one that its label has. -/
  | notCanonical
  deriving DecidableEq

namespace Flaw

def kind : Flaw → NameFlaw
  | .character .. => .character
  | .neighbours .. | .joiner .. => .context
  | .unknownDirection _ | .firstDirection | .direction .. | .mixedNumbers | .lastDirection =>
    .direction
  | _ => .form

/-- A code point as it is cited. -/
def cited (code : Nat) : String :=
  let digits := (Nat.toDigits 16 code).map Char.toUpper
  "U+" ++ String.ofList (List.replicate (4 - digits.length) '0' ++ digits)

/-- The message of a flaw of a label. -/
def message (label : List Nat) (f : Flaw) : String :=
  let shown := Text.quotedPoints (label.map CodePoint.ofNat)
  match f with
  | .longName => "Domain too long"
  | .longLabel => "Label too long"
  | .emptyLabel => "Empty Label"
  | .notComposed => "Label must be in Normalization Form C"
  | .innerHyphens => "Label has disallowed hyphens in 3rd and 4th position"
  | .outerHyphen => "Label must not start or end with a hyphen"
  | .leadingMark => "Label begins with an illegal combining character"
  | .character code place =>
    "Codepoint " ++ cited code ++ " at position " ++ toString place ++ " of " ++ shown
      ++ " not allowed"
  | .neighbours code place =>
    "Codepoint " ++ cited code ++ " not allowed at position " ++ toString place ++ " in " ++ shown
  | .joiner code place =>
    "Joiner " ++ cited code ++ " not allowed at position " ++ toString place ++ " in " ++ shown
  | .afterNameless code place =>
    "Unknown codepoint adjacent to joiner " ++ cited code ++ " at position " ++ toString place
      ++ " in " ++ shown
  | .unknownDirection place =>
    "Unknown directionality in label " ++ shown ++ " at position " ++ toString place
  | .firstDirection => "First codepoint in label " ++ shown ++ " must be directionality L, R or AL"
  | .direction rightToLeft place =>
    "Invalid direction for codepoint at position " ++ toString place ++ " in a "
      ++ (if rightToLeft then "right-to-left" else "left-to-right") ++ " label"
  | .mixedNumbers => "Can not mix numeral types in a right-to-left label"
  | .lastDirection => "Label ends with illegal codepoint directionality"
  | .nothingEncoded => "Malformed A-label, no Punycode eligible content found"
  | .trailingHyphen => "A-label must not end with a hyphen"
  | .unreadable => "Invalid A-label"
  | .notCanonical => "A-label is not the canonical Punycode encoding of its U-label"

/-- The failure of a name that has the flaw in a label. -/
def failure (label : List Nat) (f : Flaw) : Foreign := .invalidName f.kind (f.message label)

end Flaw

end ResilientCalls.Http.Host
