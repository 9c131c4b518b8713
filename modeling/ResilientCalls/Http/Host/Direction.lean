import ResilientCalls.Http.Host.Flaw
import ResilientCalls.Http.Host.Mark

namespace ResilientCalls.Http.Host

inductive Direction where
  | leftToRight
  | rightToLeft
  | arabicLetter
  | arabicNumber
  | number
  | separator
  | mark
  | neutral
  | unknown
  deriving DecidableEq

/-- Letters of the scripts that are written from right to left. -/
def rightToLeftLetters : List (Nat × Nat) :=
  [(0x5D0, 0x5F4), (0x7C0, 0x7EA), (0x7F4, 0x7F5), (0x800, 0x815), (0x81A, 0x81A), (0x824, 0x824),
   (0x828, 0x828), (0x840, 0x858), (0x10800, 0x10A00), (0x10A10, 0x10A35), (0x10A60, 0x10AE4),
   (0x10B00, 0x10CF2), (0x10E80, 0x10EA9), (0x10EB0, 0x10F27), (0x10F70, 0x10F81),
   (0x10FB0, 0x10FF6), (0x1E800, 0x1E8C4), (0x1E922, 0x1E943), (0x1E94B, 0x1E959)]

/-- Letters of the Arabic script and those related to it. -/
def arabicLetters : List (Nat × Nat) :=
  [(0x620, 0x64A), (0x66E, 0x66F), (0x671, 0x6D5), (0x6E5, 0x6E6), (0x6EE, 0x6EF), (0x6FA, 0x710),
   (0x712, 0x72F), (0x74D, 0x7A5), (0x7B1, 0x7B1), (0x860, 0x88E), (0x8A0, 0x8C9),
   (0xFE73, 0xFE73), (0x10D00, 0x10D23), (0x10F30, 0x10F45)]

/-- Digits that are written among Arabic letters. -/
def arabicNumbers : List (Nat × Nat) :=
  [(0x660, 0x669), (0x10D30, 0x10D39)]

/-- Digits that keep their direction everywhere. -/
def numbers : List (Nat × Nat) :=
  [(0x30, 0x39), (0x6F0, 0x6F9)]

/-- Characters without a direction. -/
def neutrals : List (Nat × Nat) :=
  [(0xB7, 0xB7), (0x2B9, 0x2BA), (0x2C6, 0x2CF), (0x2EC, 0x2EC), (0x375, 0x375), (0x200C, 0x200D),
   (0x2E2F, 0x2E2F), (0x30FB, 0x30FB), (0xA67F, 0xA67F), (0xA717, 0xA71F), (0xA788, 0xA788)]

/-- Marks that have the direction of letters. -/
def directedMarks : List Nat := [0xCBF, 0xCC6, 0x11A07, 0x11A08, 0x11C3F]

def direction (code : Nat) : Direction :=
  if isNew code then .unknown
  else if code = 0x2D then .separator
  else if covers numbers code then .number
  else if covers rightToLeftLetters code then .rightToLeft
  else if covers arabicLetters code then .arabicLetter
  else if covers arabicNumbers code then .arabicNumber
  else if covers neutrals code then .neutral
  else if covers plainMarks code && code ∉ directedMarks then .mark
  else .leftToRight

/-- Does a character turn the direction of its label? -/
def Direction.turns (d : Direction) : Bool :=
  d = .rightToLeft || d = .arabicLetter || d = .arabicNumber

/-- May a label that is written from right to left hold a character of a direction, and may one that
is written from left to right? -/
def Direction.fits (d : Direction) (rightToLeft : Bool) : Bool :=
  if rightToLeft then d ≠ .leftToRight else !d.turns

/-- Is a direction that of digits in a label that is written from right to left? -/
def Direction.isNumber (d : Direction) : Bool := d = .number || d = .arabicNumber

/-- The directions without those of the marks at the end. -/
def withoutMarks (ds : List Direction) : List Direction :=
  (ds.reverse.dropWhile (· = .mark)).reverse

/-- Checks directions in order, the next being that of the `place`-th character; `number` is that of
the digits so far. -/
def checkInOrder (rightToLeft : Bool) (place : Nat) (number : Option Direction) :
    List Direction → Except Flaw Unit
  | [] => .ok ()
  | d :: rest =>
    if !d.fits rightToLeft then .error (.direction rightToLeft place)
    else if rightToLeft && d.isNumber then
      if number.any (· ≠ d) then .error .mixedNumbers
      else checkInOrder rightToLeft (place + 1) (some d) rest
    else checkInOrder rightToLeft (place + 1) number rest

/-- Checks the directions of a label. One that holds a turning character has the direction of its
first letter, and holds no letter of the other. From right to left it must not hold two kinds of
digits, and has to end, marks aside, with a letter or digit. -/
def checkDirections (label : List Nat) : Except Flaw Unit := do
  let ds := label.map direction
  if ds.contains .unknown then throw (.unknownDirection (ds.idxOf .unknown + 1))
  if ds.any Direction.turns then
    let rightToLeft ← match ds.head? with
      | some .leftToRight => pure false
      | some .rightToLeft | some .arabicLetter => pure true
      | _ => throw .firstDirection
    checkInOrder rightToLeft 1 none ds
    if !(withoutMarks ds).getLast?.any fun d => d.turns || d = .number then throw .lastDirection

end ResilientCalls.Http.Host
