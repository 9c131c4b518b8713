import ResilientCalls.Failure

namespace ResilientCalls.Json

def isNoNumber : Json → Bool
  | .float x => x.isNaN
  | _ => false

mutual

/-- Are two values equal? A double that is no number equals nothing, not even itself. -/
def equals : Json → Json → Bool
  | .null, k => k.isNull
  | .text s, .text t => s = t
  | .list js, .list ks => areSame js ks
  | .object fs, .object gs => fs.length = gs.length && haveSame fs gs
  | .int n, k => k.number?.any (Number.whole n).equals
  | .bool b, k => k.number?.any (Number.truth b).equals
  | .float x, k => k.number?.any (Number.double x).equals
  | _, _ => false

/-- Do items stand for the same values, one by one? Doubles that are no number do. -/
def areSame : List Json → List Json → Bool
  | [], ks => ks.isEmpty
  | _ :: _, [] => false
  | j :: js, k :: ks => (equals j k || j.isNoNumber && k.isNoNumber) && areSame js ks

/-- Does each of some fields stand for the same value among others? -/
def haveSame : List (String × Json) → List (String × Json) → Bool
  | [], _ => true
  | (name, j) :: fs, gs =>
    ((get? name gs).any fun k => equals j k || j.isNoNumber && k.isNoNumber) && haveSame fs gs

end

/-- Do two values stand for the same thing when one is looked up? -/
def isSame (j k : Json) : Bool := equals j k || j.isNoNumber && k.isNoNumber

/-- Refuses a value by which nothing can be looked up. -/
def checkKey (j : Json) : Except Foreign Unit :=
  match j with
  | .list _ | .object _ => .error (.illTyped ("unhashable type: '" ++ j.typeName ++ "'"))
  | _ => .ok ()

end ResilientCalls.Json
