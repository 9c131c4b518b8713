import ResilientCalls.Json.Items
import ResilientCalls.StringMap.Balance
import ResilientCalls.StringMap.Fence

namespace ResilientCalls.StringMap

/-- The first fenced block of a value. -/
def fencedBlockOf (j : Json) : Except Foreign (Option CodePoints) :=
  match j with
  | .text s => .ok (fencedBlock? (CodePoints.ofString s))
  | _ => .error (.illTyped ("expected string or bytes-like object, got '" ++ j.typeName ++ "'"))

/-- The first balanced object of a value. -/
def balancedObjectOf (j : Json) : Except Foreign (Option CodePoints) :=
  (j.textFor "find").map fun s => balancedObject? (CodePoints.ofString s)

end ResilientCalls.StringMap
