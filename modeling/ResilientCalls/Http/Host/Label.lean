import ResilientCalls.Http.Host.Composition
import ResilientCalls.Http.Host.Direction
import ResilientCalls.Http.Host.Joining
import ResilientCalls.Http.Host.Punycode

namespace ResilientCalls.Http.Host

/-- Characters of the Greek script. -/
def greek : List (Nat × Nat) :=
  [(0x370, 0x373), (0x375, 0x377), (0x37A, 0x37D), (0x37F, 0x37F), (0x384, 0x384), (0x386, 0x386),
   (0x388, 0x38A), (0x38C, 0x38C), (0x38E, 0x3A1), (0x3A3, 0x3E1), (0x3F0, 0x3FF), (0x1D26, 0x1D2A),
   (0x1D5D, 0x1D61), (0x1D66, 0x1D6A), (0x1DBF, 0x1DBF), (0x1F00, 0x1F15), (0x1F18, 0x1F1D),
   (0x1F20, 0x1F45), (0x1F48, 0x1F4D), (0x1F50, 0x1F57), (0x1F59, 0x1F59), (0x1F5B, 0x1F5B),
   (0x1F5D, 0x1F5D), (0x1F5F, 0x1F7D), (0x1F80, 0x1FB4), (0x1FB6, 0x1FC4), (0x1FC6, 0x1FD3),
   (0x1FD6, 0x1FDB), (0x1FDD, 0x1FEF), (0x1FF2, 0x1FF4), (0x1FF6, 0x1FFE), (0x2126, 0x2126),
   (0xAB65, 0xAB65), (0x10140, 0x1018E), (0x101A0, 0x101A0), (0x1D200, 0x1D245)]

/-- Characters of the Hebrew script. -/
def hebrew : List (Nat × Nat) :=
  [(0x591, 0x5C9), (0x5D0, 0x5EA), (0x5EF, 0x5F4), (0xFB1D, 0xFB36), (0xFB38, 0xFB3C),
   (0xFB3E, 0xFB3E), (0xFB40, 0xFB41), (0xFB43, 0xFB44), (0xFB46, 0xFB4F)]

/-- Characters of the scripts that a middle dot may stand among. -/
def japanese : List (Nat × Nat) :=
  [(0x2E80, 0x2E99), (0x2E9B, 0x2EF3), (0x2F00, 0x2FD5), (0x3005, 0x3005), (0x3007, 0x3007),
   (0x3021, 0x3029), (0x3038, 0x303B), (0x3041, 0x3096), (0x309D, 0x309F), (0x30A1, 0x30FA),
   (0x30FD, 0x30FF), (0x31F0, 0x31FF), (0x32D0, 0x32FE), (0x3300, 0x3357), (0x3400, 0x4DBF),
   (0x4E00, 0x9FFF), (0xF900, 0xFA6D), (0xFA70, 0xFAD9), (0xFF66, 0xFF6F), (0xFF71, 0xFF9D),
   (0x16FE2, 0x16FE3), (0x16FF0, 0x16FF6), (0x1AFF0, 0x1AFF3), (0x1AFF5, 0x1AFFB),
   (0x1AFFD, 0x1AFFE), (0x1B000, 0x1B123), (0x1B132, 0x1B132), (0x1B150, 0x1B152),
   (0x1B155, 0x1B155), (0x1B164, 0x1B167), (0x1F200, 0x1F200), (0x20000, 0x2A6DF),
   (0x2A700, 0x2B81D), (0x2B820, 0x2CEAD), (0x2CEB0, 0x2EBE0), (0x2EBF0, 0x2EE5D),
   (0x2F800, 0x2FA1D), (0x30000, 0x3134A), (0x31350, 0x33479)]

def arabicDigits : List (Nat × Nat) := [(0x660, 0x669)]

def easternDigits : List (Nat × Nat) := [(0x6F0, 0x6F9)]

/-- The first joining among characters that joining does not pass over. -/
def meets? (cs : List Nat) : Option Joining :=
  (cs.dropWhile fun c => joining? c = some .transparent).head?.bind joining?

/-- Does a mark that takes the vowel come just before? -/
def followsVirama (before : List Nat) : Bool := before.head?.any (combiningClass · = virama)

/-- May a joiner stand between the text before it, latest first, and that after it? -/
def joinerSuits (before : List Nat) (c : Nat) (after : List Nat) : Bool :=
  followsVirama before ||
    c = 0x200C && meets? before ∈ [some .both, some .after] &&
      meets? after ∈ [some .both, some .before]

/-- May a character that is not admitted everywhere stand in a label, between the text before it,
latest first, and that after it? `none` if it may not stand anywhere. -/
def suits? (label before : List Nat) (c : Nat) (after : List Nat) : Option Bool :=
  if c = 0xB7 then some (before.head? = some 0x6C && after.head? = some 0x6C)
  else if c = 0x375 then some (after.head?.any (covers greek))
  else if c = 0x5F3 || c = 0x5F4 then some (before.head?.any (covers hebrew))
  else if c = 0x30FB then some (label.any fun d => d ≠ c && covers japanese d)
  else if covers arabicDigits c then some !label.any (covers easternDigits)
  else if covers easternDigits c then some !label.any (covers arabicDigits)
  else none

def isJoiner (c : Nat) : Bool := c = 0x200C || c = 0x200D

/-- The Tangut characters, which have numbers in place of names. -/
def tangut : List (Nat × Nat) := [(0x17000, 0x187F7), (0x18D00, 0x18D08)]

/-- Is it a character by whose name nothing can be looked up? -/
def isNameless (c : Nat) : Bool := isNew c || covers tangut c

/-- Checks a character of a label at a place. -/
def checkCharacter (label before : List Nat) (c : Nat) (after : List Nat) (place : Nat) :
    Except Flaw Unit :=
  if isAdmitted c then .ok ()
  else if isJoiner c then
    if before.head?.any isNameless then .error (.afterNameless c place)
    else if joinerSuits before c after then .ok ()
    else .error (.joiner c place)
  else
    match suits? label before c after with
    | some true => .ok ()
    | some false => .error (.neighbours c place)
    | none => .error (.character c place)

/-- Checks the characters of a label from the `place`-th on. -/
def checkCharacters (label before : List Nat) (place : Nat) : List Nat → Except Flaw Unit
  | [] => .ok ()
  | c :: rest =>
    match checkCharacter label before c rest place with
    | .ok () => checkCharacters label (c :: before) (place + 1) rest
    | .error f => .error f

/-- No text of more characters is looked at as a label or name. -/
def maxText : Nat := 254

def hyphen : Nat := 0x2D

/-- Checks a label. -/
def checkLabel (cs : List Nat) : Except Flaw Unit := do
  if cs = [] then throw .emptyLabel
  if maxText < cs.length then throw .longLabel
  if !isComposed cs then throw .notComposed
  if (cs.drop 2).take 2 = [hyphen, hyphen] then throw .innerHyphens
  if cs.head? = some hyphen || cs.getLast? = some hyphen then throw .outerHyphen
  if cs.head?.any isMark then throw .leadingMark
  checkCharacters cs [] 1 cs
  checkDirections cs

/-- Stands before the ASCII form of a label. -/
def encodedMark : List Nat := [0x78, 0x6E, hyphen, hyphen]

/-- Labels of more characters are not sent. -/
def maxLabel : Nat := 63

/-- Checks a label in ASCII, which may be the ASCII form of another one; a flaw is found in that. -/
def checkAsciiLabel (cs : List Nat) : Except (List Nat × Flaw) Unit :=
  if encodedMark.isPrefixOf cs then
    let form := cs.drop encodedMark.length
    if form = [] then .error (cs, .nothingEncoded)
    else if form.getLast? = some hyphen then .error (cs, .trailingHyphen)
    else
      match ofPunycode? form with
      | none => .error (cs, .unreadable)
      | some label =>
        if punycode label ≠ form then .error (label, .notCanonical)
        else (checkLabel label).mapError (label, ·)
  else (checkLabel cs).mapError (cs, ·)

/-- The small form of a letter in ASCII. -/
def smallAscii (c : Nat) : Nat := if 0x41 ≤ c ∧ c ≤ 0x5A then c + 0x20 else c

/-- Checks a name in ASCII, whose last label may be followed by a dot. -/
def checkAsciiName (cs : List Nat) : Except (List Nat × Flaw) Unit :=
  let labels := (cs.map smallAscii).splitOn 0x2E
  if maxText < cs.length then .error (cs, .longName)
  else (if labels.getLast? = some [] then labels.dropLast else labels).forM checkAsciiLabel

/-- A label as it is sent. -/
def asciiLabel? (cs : List Nat) : Option (List Nat) :=
  let isAscii := cs.all (· < firstBeyond)
  let sent := if isAscii then cs else encodedMark ++ punycode cs
  let isValid := if isAscii then (checkAsciiLabel cs).isOk else (checkLabel cs).isOk
  if isValid && sent.length ≤ maxLabel then some sent else none

end ResilientCalls.Http.Host
