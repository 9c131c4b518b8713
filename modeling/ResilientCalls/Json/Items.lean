import ResilientCalls.Failure

namespace ResilientCalls.Json

/-- The items of a list, the characters of a text, or the names of an object's fields. -/
def items (j : Json) : Except Foreign (List Json) :=
  match j with
  | .list items => .ok items
  | .text s => .ok (s.toList.map fun c => .text (String.ofList [c]))
  | .object fields => .ok (fields.map fun f => .text f.1)
  | _ => .error (.notIterable j.typeName)

/-- The text that a value is; it is asked for because an operation of texts is to follow. -/
def textFor (operation : String) (j : Json) : Except Foreign String :=
  match j with
  | .text s => .ok s
  | _ => .error (.noAttribute j.typeName operation)

/-- The text that a value is; one that holds nothing counts as empty. -/
def textOrEmpty (operation : String) (j : Json) : Except Foreign String :=
  if j.holds then j.textFor operation else .ok ""

end ResilientCalls.Json
