import ResilientCalls.Json.Equality
import ResilientCalls.Json.Items

namespace ResilientCalls.Json

/-- What two items make of a pair; `place` is that of the pair in its sequence. -/
def pairOf (place : Nat) (j : Json) : Except Foreign (Json × Json) :=
  let shown := toString place
  match j.items with
  | .error _ =>
    .error (.illTyped
      ("cannot convert dictionary update sequence element #" ++ shown ++ " to a sequence"))
  | .ok [name, value] => name.checkKey.map fun _ => (name, value)
  | .ok items =>
    .error (.value ("dictionary update sequence element #" ++ shown ++ " has length "
      ++ toString items.length ++ "; 2 is required"))

def pairsFrom (place : Nat) : List Json → Except Foreign (List (Json × Json))
  | [] => .ok []
  | j :: rest => do
    let p ← pairOf place j
    return p :: (← pairsFrom (place + 1) rest)

/-- Gives a name its value: in place when the name is known, else at the end. -/
def assign (name value : Json) : List (Json × Json) → List (Json × Json)
  | [] => [(name, value)]
  | (n, v) :: rest => if n.isSame name then (n, value) :: rest else (n, v) :: assign name value rest

/-- The fields that a value makes; names are spelled as they first appeared. -/
def dictionary (j : Json) : Except Foreign (List (String × Json)) :=
  match j with
  | .object fields => .ok fields
  | _ => do
    let pairs ← pairsFrom 0 (← j.items)
    let fields := pairs.foldl (fun done p => assign p.1 p.2 done) []
    return ofAssignments (fields.map fun p => (p.1.plain, p.2))

end ResilientCalls.Json
