import ResilientCalls.Http.Percent
import ResilientCalls.Json.Equality

namespace ResilientCalls.Http.Query

def formQuery (params : List (String × String)) : List Char :=
  ['&'].intercalate (params.map fun p => formEncoded p.1 ++ '=' :: formEncoded p.2)

/-- A value as it is sent. -/
def valueText : Json → String
  | .bool b => if b then "true" else "false"
  | .null => ""
  | j => j.plain

def valuesOf : Json → List Json
  | .list items => items
  | j => [j]

/-- Fields as pairs; a list gives one pair for each of its items. -/
def ofFields (fields : List (String × Json)) : List (String × String) :=
  fields.flatMap fun (name, j) => (valuesOf j).map fun v => (name, valueText v)

/-- The name and the value of an item that holds both. -/
def pairOf (j : Json) : Except Foreign (Json × Json) :=
  match j with
  | .list (name :: value) => do
    name.checkKey
    match value with
    | value :: _ => return (name, value)
    | [] => throw (.noSuchPlace "list index out of range")
  | .list [] => .error (.noSuchPlace "list index out of range")
  | .text s =>
    match s.toList with
    | a :: b :: _ => .ok (.text (String.ofList [a]), .text (String.ofList [b]))
    | _ => .error (.noSuchPlace "string index out of range")
  | .object _ => .error (.missingKey (.int 0))
  | _ => .error (.notSubscriptable j.typeName)

/-- Adds a value to those of its name. -/
def addValue (name : Json) (value : String) :
    List (Json × List String) → List (Json × List String)
  | [] => [(name, [value])]
  | (n, values) :: rest =>
    if n.isSame name then (n, values ++ [value]) :: rest
    else (n, values) :: addValue name value rest

/-- The values of each name, in the order in which the names first appeared. -/
def gathered (pairs : List (Json × String)) : List (String × String) :=
  let groups := pairs.foldl (fun done p => addValue p.1 p.2 done) []
  (Json.ofAssignments (groups.map fun g => (g.1.plain, g.2))).flatMap fun g =>
    g.2.map fun value => (g.1, value)

/-- The pairs that an encoded text holds. -/
def ofEncoded (cs : List Char) : List (Json × String) :=
  let decoded := fun cs : List Char =>
    String.ofList (decodedText (cs.map fun c => if c = '+' then ' ' else c))
  ((cs.splitOn '&').filter (· ≠ [])).map fun part =>
    (.text (decoded (part.takeWhile (· ≠ '='))), decoded ((part.dropWhile (· ≠ '=')).drop 1))

def pairsOf (j : Json) : Except Foreign (List (String × String)) :=
  match j with
  | .object fields => .ok (ofFields fields)
  | .list items => do
    let pairs ← items.mapM pairOf
    return gathered (pairs.map fun p => (p.1, valueText p.2))
  | .text s => .ok (gathered (ofEncoded s.toList))
  | _ => .error (.noAttribute j.typeName "items")

/-- What parameters do to the query of an address. -/
inductive Change where
  | keep
  | put (query : Option (List Char))

/-- Parameters that hold nothing, or are a text without pairs, remove the query. -/
def Change.ofJson (j : Json) : Except Foreign Change :=
  if j.isNull then .ok .keep
  else if !j.holds then .ok (.put none)
  else do
    let pairs ← pairsOf j
    return .put (if j.isText && pairs.isEmpty then none else some (formQuery pairs))

end ResilientCalls.Http.Query
