import ResilientCalls.Json.Reader
import ResilientCalls.StringMap.Balance
import ResilientCalls.StringMap.Fence

namespace ResilientCalls

/-- Names with their texts, in the order in which the names first appeared. -/
abbrev StringMap := List (CodePoints × CodePoints)

namespace StringMap

/-- The text of a name. -/
def text? (m : StringMap) (name : String) : Option CodePoints :=
  Json.get? (CodePoints.ofString name) m

/-- Where a candidate was found. -/
inductive Origin where
  | fullText
  | fencedBlock
  | embeddedObject
  deriving DecidableEq

def Origin.label : Origin → String
  | .fullText => "full_text"
  | .fencedBlock => "fenced_block"
  | .embeddedObject => "embedded_object"

/-- Why a candidate is no string map. -/
inductive Rejection where
  | refused (r : Json.Refusal)
  | notObject (j : Document)
  | notText (name : CodePoints) (j : Document)

def Rejection.message (candidate : CodePoints) : Rejection → String
  | .refused r => r.message candidate
  | .notObject j => "expected a JSON object, got " ++ j.typeName
  | .notText name j =>
    "value for key " ++ Text.quotedPoints name ++ " is " ++ j.typeName ++ ", not a string"

/-- The fields as texts, or the first field that is none. -/
def ofFields : List (CodePoints × Document) → Except Rejection StringMap
  | [] => .ok []
  | (name, .text s) :: rest =>
    match ofFields rest with
    | .ok m => .ok ((name, s) :: m)
    | .error e => .error e
  | (name, j) :: _ => .error (.notText name j)

def ofCandidate [Json.Depth] (ps : CodePoints) : Except Rejection StringMap :=
  match Json.decode ps with
  | .error r => .error (.refused r)
  | .ok (.object fields) => ofFields fields
  | .ok j => .error (.notObject j)

/-- The candidates of a trimmed text, in the order in which they are tried. An embedded object is
looked for only if the text does not itself begin with a brace. -/
def candidates (text : CodePoints) : List (Origin × CodePoints) :=
  let fenced := (fencedBlock? text).toList.map (Origin.fencedBlock, ·)
  let embedded :=
    if text.head? = some (.char '{') then []
    else (balancedObject? text).toList.map (Origin.embeddedObject, ·)
  (.fullText, text) :: fenced ++ embedded

/-- The candidates without those that repeat an earlier one. -/
def distinct (seen : List CodePoints) : List (Origin × CodePoints) → List (Origin × CodePoints)
  | [] => []
  | (o, ps) :: rest =>
    if ps ∈ seen then distinct seen rest else (o, ps) :: distinct (ps :: seen) rest

/-- A rejected candidate. -/
structure Reason where
  origin : Origin
  message : String

/-- The map of the first candidate that is one, or why each is none. -/
def firstOf [Json.Depth] : List (Origin × CodePoints) → Except (List Reason) StringMap
  | [] => .error []
  | (o, ps) :: rest =>
    match ofCandidate ps with
    | .ok m => .ok m
    | .error e =>
      match firstOf rest with
      | .ok m => .ok m
      | .error reasons => .error (⟨o, e.message ps⟩ :: reasons)

/-- The string map of an answer. -/
def recover [Json.Depth] (raw : CodePoints) : Except (List Reason) StringMap :=
  firstOf (distinct [] (candidates raw.trim))

end StringMap

end ResilientCalls
