import ResilientCalls.Failure

namespace ResilientCalls.Provider

/-- The API that a provider speaks. -/
inductive Family where
  | gemini
  | gpt
  deriving DecidableEq

def Family.name : Family → String
  | .gemini => "gemini"
  | .gpt => "gpt"

namespace Answer

abbrev Part := Except Foreign Document

/-- The value unless it holds nothing. -/
def orElse (j default : Document) : Document := if j.holds then j else default

/-- The value of a field, null if it is absent. -/
def member (j : Document) (name : String) : Part :=
  match j with
  | .object fields => .ok ((Json.get? (CodePoints.ofString name) fields).getD .null)
  | _ => .error (.noAttribute j.typeName "get")

/-- The first item of a value that holds something. -/
def first (j : Document) : Part :=
  match j with
  | .list (item :: _) => .ok item
  | .list [] => .ok .null
  | .text s => .ok (.text (s.take 1))
  | .object _ => .error (.missingKey (.int 0))
  | _ => .error (.notSubscriptable j.typeName)

/-- The items of a value. Those of a text or an object are texts. -/
def items (j : Document) : Except Foreign (List Document) :=
  match j with
  | .list items => .ok items
  | .text s => .ok (s.map fun p => .text [p])
  | .object fields => .ok (fields.map fun f => .text f.1)
  | _ => .error (.notIterable j.typeName)

def textsOf : List Document → Except Foreign (List Document)
  | [] => .ok []
  | j :: rest => do
    let t ← member j "text"
    let ts ← textsOf rest
    return orElse t (.text []) :: ts

/-- The concatenation of texts, of which the next is the `place`-th. -/
def concatenated (place : Nat) : List Document → Except Foreign CodePoints
  | [] => .ok []
  | .text s :: rest => (concatenated (place + 1) rest).map (s ++ ·)
  | j :: _ => .error (.notText place j.typeName)

/-- The texts of the parts of the first candidate, joined and trimmed. -/
def ofCandidates (body : Document) : Except Foreign CodePoints := do
  let candidates := orElse (← member body "candidates") (.list [])
  if !candidates.holds then return []
  let content := orElse (← member (← first candidates) "content") (.object [])
  let parts := orElse (← member content "parts") (.list [])
  let texts ← textsOf (← items parts)
  return (← concatenated 0 texts).trim

/-- The content of the first choice's message, trimmed. -/
def ofChoices (body : Document) : Except Foreign CodePoints := do
  let choices := orElse (← member body "choices") (.list [])
  if !choices.holds then return []
  let message := orElse (← member (← first choices) "message") (.object [])
  match orElse (← member message "content") (.text []) with
  | .text s => return s.trim
  | j => throw (.noAttribute j.typeName "strip")

end Answer

/-- The text of a response body. -/
def Family.answer : Family → Document → Except Foreign CodePoints
  | .gemini => Answer.ofCandidates
  | .gpt => Answer.ofChoices

end ResilientCalls.Provider
