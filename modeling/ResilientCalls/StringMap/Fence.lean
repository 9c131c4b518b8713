import ResilientCalls.Text.CodePoint

namespace ResilientCalls.StringMap

def tick : CodePoint := '\x60'

/-- The text after a fence that it begins with. -/
def afterFence? : CodePoints → Option CodePoints
  | a :: b :: c :: rest => if a = tick ∧ b = tick ∧ c = tick then some rest else none
  | _ => none

/-- The text before the first fence, latest code point first, and the text after it. -/
def splitFence? (before : CodePoints) : CodePoints → Option (CodePoints × CodePoints)
  | [] => none
  | p :: rest =>
    match afterFence? (p :: rest) with
    | some after => some (before, after)
    | none => splitFence? (p :: before) rest

/-- Does the code point match an ASCII letter, whatever its case? The long s counts as an s. -/
def isLetter (lower : Char) (p : CodePoint) : Bool :=
  p.toChar.toLower = lower || (lower = 's' && p = '\u017F')

def skipLabel (ps : CodePoints) : CodePoints :=
  match ps with
  | a :: b :: c :: d :: rest =>
    if isLetter 'j' a && isLetter 's' b && isLetter 'o' c && isLetter 'n' d then rest else ps
  | _ => ps

def skipOne (c : Char) : CodePoints → CodePoints
  | [] => []
  | p :: rest => if p = c then rest else p :: rest

/-- What follows an opening fence without its label, blanks and line break. -/
def skipHeader (ps : CodePoints) : CodePoints :=
  skipOne '\n' (skipOne '\r' ((skipLabel ps).dropWhile fun p => p = ' ' || p = '\t'))

/-- The trimmed content of the first block, if both its fences are there. -/
def fencedBlock? (ps : CodePoints) : Option CodePoints :=
  match splitFence? [] ps with
  | none => none
  | some (_, after) =>
    (splitFence? [] (skipHeader after)).map fun (body, _) => CodePoints.trim body.reverse

end ResilientCalls.StringMap
