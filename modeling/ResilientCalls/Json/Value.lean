import ResilientCalls.Binary64.Shortest
import ResilientCalls.Number
import ResilientCalls.Text.Quoted

namespace ResilientCalls

/-- The values of a JSON text. Whole numbers and doubles are kept apart, and an object lists its
fields in the order in which their names first appeared. -/
inductive Json (α : Type := String) where
  | null
  | bool (b : Bool)
  | int (n : Int)
  | float (x : Binary64)
  | text (s : α)
  | list (items : List (Json α))
  | object (fields : List (α × Json α))
  deriving Inhabited

/-- What a JSON text says. -/
abbrev Document := Json CodePoints

/-- A number in the form in which it was given. -/
def Number.toJson : Number → Json
  | .whole n => .int n
  | .truth b => .bool b
  | .double x => .float x

namespace Json

variable {α β : Type}

/-- Gives a name its value: in place when the name is known, else at the end. -/
def put [DecidableEq α] (name : α) (a : β) : List (α × β) → List (α × β)
  | [] => [(name, a)]
  | (n, b) :: rest => if n = name then (n, a) :: rest else (n, b) :: put name a rest

/-- The fields of a sequence of assignments: each name stands where it first appeared, with the
value that it was given last. -/
def ofAssignments [DecidableEq α] (pairs : List (α × β)) : List (α × β) :=
  pairs.foldl (fun fields p => put p.1 p.2 fields) []

def get? [DecidableEq α] (name : α) (fields : List (α × β)) : Option β :=
  (fields.find? fun f => f.1 = name).map (·.2)

/-- The value of an option; none is null. -/
def ofOption (f : α → Json) : Option α → Json
  | none => .null
  | some a => f a

/-- The number that a value is. -/
def number? : Json → Option Number
  | .int n => some (.whole n)
  | .bool b => some (.truth b)
  | .float x => some (.double x)
  | _ => none

/-- The word that messages use for the kind of a value. -/
def typeName : Json α → String
  | .null => "NoneType"
  | .bool _ => "bool"
  | .int _ => "int"
  | .float _ => "float"
  | .text _ => "str"
  | .list _ => "list"
  | .object _ => "dict"

/-- The kind of a value where messages name it in full. -/
def className (j : Json) : String := "<class '" ++ j.typeName ++ "'>"

/-- Zero, the empty texts and containers, false and null do not hold. The default text is the empty
one. -/
def holds [DecidableEq α] [Inhabited α] : Json α → Bool
  | .null => false
  | .bool b => b
  | .int n => n ≠ 0
  | .float x => (Number.double x).holds
  | .text s => s ≠ default
  | .list items => !items.isEmpty
  | .object fields => !fields.isEmpty

def isText : Json → Bool
  | .text _ => true
  | _ => false

def isNull : Json → Bool
  | .null => true
  | _ => false

mutual

/-- The value with another kind of texts. -/
def map (f : α → β) : Json α → Json β
  | .null => .null
  | .bool b => .bool b
  | .int n => .int n
  | .float x => .float x
  | .text s => .text (f s)
  | .list items => .list (mapItems f items)
  | .object fields => .object (mapFields f fields)

def mapItems (f : α → β) : List (Json α) → List (Json β)
  | [] => []
  | j :: rest => map f j :: mapItems f rest

def mapFields (f : α → β) : List (α × Json α) → List (β × Json β)
  | [] => []
  | (name, j) :: rest => (f name, map f j) :: mapFields f rest

end

mutual

/-- A value as messages show it. -/
def shown : Json → String
  | .null => "None"
  | .bool b => if b then "True" else "False"
  | .int n => toString n
  | .float x => Binary64.text x
  | .text s => Text.quoted s
  | .list items => "[" ++ ", ".intercalate (shownItems items) ++ "]"
  | .object fields => "\x7b" ++ ", ".intercalate (shownFields fields) ++ "\x7d"

def shownItems : List Json → List String
  | [] => []
  | j :: rest => shown j :: shownItems rest

def shownFields : List (String × Json) → List String
  | [] => []
  | (name, j) :: rest => (Text.quoted name ++ ": " ++ shown j) :: shownFields rest

end

/-- As `shown`, but a text stands for itself. -/
def plain : Json → String
  | .text s => s
  | j => shown j

end Json

end ResilientCalls
