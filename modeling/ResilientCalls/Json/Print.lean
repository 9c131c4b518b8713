import ResilientCalls.Json.Value

namespace ResilientCalls.Json

def printedChar (c : Char) : List Char :=
  if c = '"' then ['\\', '"']
  else if c = '\\' then ['\\', '\\']
  else if c = '\n' then ['\\', 'n']
  else if c = '\r' then ['\\', 'r']
  else if c = '\t' then ['\\', 't']
  else if c = '\x08' then ['\\', 'b']
  else if c = '\x0C' then ['\\', 'f']
  else if c.toNat < 0x20 then '\\' :: 'u' :: Text.hexPadded 4 c.toNat
  else [c]

def printedText (s : String) : List Char :=
  '"' :: s.toList.flatMap printedChar ++ ['"']

def printedFloat (x : Binary64) : String :=
  match x.value with
  | .nan => "NaN"
  | .infinite negative => if negative then "-Infinity" else "Infinity"
  | .finite .. => x.text

def newLine (indent : Nat) : List Char := '\n' :: List.replicate (2 * indent) ' '

mutual

/-- The text of a value whose first line is indented by `indent` levels. -/
def printed (indent : Nat) : Json → List Char
  | .null => "null".toList
  | .bool b => (if b then "true" else "false").toList
  | .int n => (toString n).toList
  | .float x => (printedFloat x).toList
  | .text s => printedText s
  | .list [] => ['[', ']']
  | .list (j :: rest) =>
    '[' :: newLine (indent + 1) ++ printed (indent + 1) j ++ printedItems (indent + 1) rest ++
      newLine indent ++ [']']
  | .object [] => ['{', '}']
  | .object ((name, j) :: rest) =>
    '{' :: newLine (indent + 1) ++ printedText name ++ [':', ' '] ++ printed (indent + 1) j ++
      printedFields (indent + 1) rest ++ newLine indent ++ ['}']

def printedItems (indent : Nat) : List Json → List Char
  | [] => []
  | j :: rest => ',' :: newLine indent ++ printed indent j ++ printedItems indent rest

def printedFields (indent : Nat) : List (String × Json) → List Char
  | [] => []
  | (name, j) :: rest =>
    ',' :: newLine indent ++ printedText name ++ [':', ' '] ++ printed indent j ++
      printedFields indent rest

end

/-- The text of a value. -/
def print (j : Json) : String := String.ofList (printed 0 j)

end ResilientCalls.Json
