import ResilientCalls.Json.Print

namespace ResilientCalls.Json

mutual

/-- The text of a value, followed by `rest`. -/
def compactOnto (rest : List Char) : Json → List Char
  | .list items => '[' :: compactItems (']' :: rest) items
  | .object fields => '{' :: compactFields ('}' :: rest) fields
  | .text s => printedText s ++ rest
  | .null => "null".toList ++ rest
  | .bool b => (if b then "true" else "false").toList ++ rest
  | .int n => (toString n).toList ++ rest
  | .float x => (printedFloat x).toList ++ rest

def compactItems (rest : List Char) : List Json → List Char
  | [] => rest
  | [j] => compactOnto rest j
  | j :: more => compactOnto (',' :: compactItems rest more) j

def compactFields (rest : List Char) : List (String × Json) → List Char
  | [] => rest
  | [(name, j)] => printedText name ++ ':' :: compactOnto rest j
  | (name, j) :: more =>
    printedText name ++ ':' :: compactOnto (',' :: compactFields rest more) j

end

/-- The text of a value on one line. -/
def compact (j : Json) : String := String.ofList (compactOnto [] j)

mutual

/-- Are all numbers in a value finite? There is no text for the others that every reader knows. -/
def isFinite : Json → Bool
  | .float x => x.isFinite
  | .list items => areFinite items
  | .object fields => haveFinite fields
  | _ => true

def areFinite : List Json → Bool
  | [] => true
  | j :: rest => isFinite j && areFinite rest

def haveFinite : List (String × Json) → Bool
  | [] => true
  | (_, j) :: rest => isFinite j && haveFinite rest

end

end ResilientCalls.Json
