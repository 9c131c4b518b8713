import ResilientCalls.Failure
import ResilientCalls.Schema.Integer

namespace ResilientCalls.Schema

/-- One thing that is wrong, and the path of the value that it is wrong with. -/
structure Issue where
  path : List String
  message : String
  kind : String
  deriving DecidableEq

abbrev Checked (α : Type) := Except (List Issue) α

variable {α β : Type}

def fail (message kind : String) : Checked α := .error [⟨[], message, kind⟩]

/-- Both parts, or the issues of both. -/
def both (x : Checked α) (y : Checked β) : Checked (α × β) :=
  match x, y with
  | .ok a, .ok b => .ok (a, b)
  | .ok _, .error f => .error f
  | .error e, .ok _ => .error e
  | .error e, .error f => .error (e ++ f)

/-- Puts the issues of a part below its name. -/
def within (segment : String) : Checked α → Checked α
  | .ok a => .ok a
  | .error issues => .error (issues.map fun i => { i with path := segment :: i.path })

/-- A field's name in an API's payload and in the library's own records. -/
structure Name where
  wire : String
  plain : String

inductive Spelling where
  | wire
  | plain
  deriving DecidableEq

def Name.spelled (n : Name) : Spelling → String
  | .wire => n.wire
  | .plain => n.plain

/-- The value of a field and the spelling under which it was found. -/
def Name.find? (n : Name) (fields : List (String × Json)) : Option (String × Json) :=
  match Json.get? n.wire fields with
  | some j => some (n.wire, j)
  | none => (Json.get? n.plain fields).map (n.plain, ·)

def required (n : Name) (fields : List (String × Json)) (check : Json → Checked α) : Checked α :=
  match n.find? fields with
  | some (spelling, j) => within spelling (check j)
  | none => within n.wire (fail "Field required" "missing")

def optional (n : Name) (fields : List (String × Json)) (default : α) (check : Json → Checked α) :
    Checked α :=
  match n.find? fields with
  | some (spelling, j) => within spelling (check j)
  | none => .ok default

def nullable (check : Json → Checked α) : Json → Checked (Option α)
  | .null => .ok none
  | j => (check j).map some

def text : Json → Checked String
  | .text s => .ok s
  | _ => fail "Input should be a valid string" "string_type"

/-- A text of at least so many characters. -/
abbrev TextFrom (least : Nat) := { s : String // least ≤ s.length }

/-- A text whose length is within bounds. -/
abbrev TextWithin (least most : Nat) := { s : String // least ≤ s.length ∧ s.length ≤ most }

/-- An integer that is not below a bound. -/
abbrev IntFrom (least : Int) := { n : Int // least ≤ n }

/-- An integer within bounds. -/
abbrev IntWithin (least most : Int) := { n : Int // least ≤ n ∧ n ≤ most }

def characters (n : Nat) : String := toString n ++ if n = 1 then " character" else " characters"

def tooShort (least : Nat) : Checked α :=
  fail ("String should have at least " ++ characters least) "string_too_short"

def tooLong (most : Nat) : Checked α :=
  fail ("String should have at most " ++ characters most) "string_too_long"

def textFrom (least : Nat) (j : Json) : Checked (TextFrom least) :=
  match text j with
  | .error e => .error e
  | .ok s => if h : least ≤ s.length then .ok ⟨s, h⟩ else tooShort least

def textWithin (least most : Nat) (j : Json) : Checked (TextWithin least most) :=
  match text j with
  | .error e => .error e
  | .ok s =>
    if h : least ≤ s.length then
      if h' : s.length ≤ most then .ok ⟨s, h, h'⟩ else tooLong most
    else tooShort least

def exceedsSize : Checked α :=
  fail "Unable to parse input string as an integer, exceeded maximum size" "int_parsing_size"

/-- Is a double's integral value read? Those of more than 63 bits are not. -/
def isWordSized (n : Int) : Bool := n.natAbs < Nat.pow 2 63

def int : Json → Checked Int
  | .int n => .ok n
  | .bool b => .ok (if b then 1 else 0)
  | .float x =>
    match x.truncate? with
    | some n =>
      if !x.isIntegral then
        fail "Input should be a valid integer, got a number with a fractional part" "int_from_float"
      else if isWordSized n then .ok n
      else exceedsSize
    | none => fail "Input should be a finite number" "finite_number"
  | .text s =>
    match writtenInteger s.toList with
    | .integer n => .ok n
    | .oversized => exceedsSize
    | .malformed =>
      fail "Input should be a valid integer, unable to parse string as an integer" "int_parsing"
  | _ => fail "Input should be a valid integer" "int_type"

def belowLeast (least : Int) : Checked α :=
  fail ("Input should be greater than or equal to " ++ toString least) "greater_than_equal"

def intFrom (least : Int) (j : Json) : Checked (IntFrom least) :=
  match int j with
  | .error e => .error e
  | .ok n => if h : least ≤ n then .ok ⟨n, h⟩ else belowLeast least

/-- An integer above zero. -/
def positiveInt (j : Json) : Checked (IntFrom 1) :=
  match int j with
  | .error e => .error e
  | .ok n => if h : 1 ≤ n then .ok ⟨n, h⟩ else fail "Input should be greater than 0" "greater_than"

def intWithin (least most : Int) (j : Json) : Checked (IntWithin least most) :=
  match int j with
  | .error e => .error e
  | .ok n =>
    if h : least ≤ n then
      if h' : n ≤ most then .ok ⟨n, h, h'⟩
      else fail ("Input should be less than or equal to " ++ toString most) "less_than_equal"
    else belowLeast least

def trueWords : List String := ["1", "on", "t", "true", "y", "yes"]

def falseWords : List String := ["0", "off", "f", "false", "n", "no"]

def uninterpretable : Checked α :=
  fail "Input should be a valid boolean, unable to interpret input" "bool_parsing"

def bool : Json → Checked Bool
  | .bool b => .ok b
  | .int n =>
    if n = 0 then .ok false
    else if n = 1 then .ok true
    else if -(Nat.pow 2 63 : Int) ≤ n && n < Nat.pow 2 63 then uninterpretable
    else fail "Input should be a valid boolean" "bool_type"
  | .float x =>
    if (Number.double x).equals 0 then .ok false
    else if (Number.double x).equals 1 then .ok true
    else if x.isIntegral && x.truncate?.any isWordSized then uninterpretable
    else fail "Input should be a valid boolean" "bool_type"
  | .text s =>
    let word := s.toLower
    if word ∈ trueWords then .ok true
    else if word ∈ falseWords then .ok false
    else uninterpretable
  | _ => fail "Input should be a valid boolean" "bool_type"

/-- The words of a choice as a sentence lists them. -/
def listed : List String → String
  | [] => ""
  | [a] => Text.quoted a
  | [a, b] => Text.quoted a ++ " or " ++ Text.quoted b
  | a :: rest => Text.quoted a ++ ", " ++ listed rest

/-- One of the named values, spelled exactly. -/
def choice (named : List (String × α)) (j : Json) : Checked α :=
  let other : Checked α :=
    fail ("Input should be " ++ listed (named.map (·.1))) "literal_error"
  match j with
  | .text s =>
    match Json.get? s named with
    | some a => .ok a
    | none => other
  | _ => other

/-- Checks items in order, each below its index. -/
def items (check : Json → Checked α) (index : Nat) : List Json → Checked (List α)
  | [] => .ok []
  | j :: rest =>
    (both (within (toString index) (check j)) (items check (index + 1) rest)).map
      fun p => p.1 :: p.2

def list (check : Json → Checked α) : Json → Checked (List α)
  | .list js => items check 0 js
  | _ => fail "Input should be a valid list" "list_type"

def tuple (check : Json → Checked α) : Json → Checked (List α)
  | .list js => items check 0 js
  | _ => fail "Input should be a valid tuple" "tuple_type"

def record (name : String) (check : List (String × Json) → Checked α) : Json → Checked α
  | .object fields => check fields
  | _ =>
    fail ("Input should be a valid dictionary or instance of " ++ name) "model_type"

def Issue.field (i : Issue) : String := ".".intercalate i.path

def Issue.toJson (i : Issue) : Json :=
  .object [("field", .text i.field), ("message", .text i.message), ("type", .text i.kind)]

/-- The failure that reports a list of issues. -/
def rejected (issues : List Issue) : Failure :=
  .validation "Validation failed" (issues.map Issue.toJson)

end ResilientCalls.Schema
