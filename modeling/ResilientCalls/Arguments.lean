import ResilientCalls.Failure

namespace ResilientCalls

/-- The names that a callable knows. -/
structure Signature where
  name : String
  required : List String
  optional : List String

abbrev Arguments := List (String × Json)

namespace Arguments

/-- The value of an argument; one that is not given is null. -/
def value (args : Arguments) (name : String) : Json := (Json.get? name args).getD .null

def valueOr (args : Arguments) (name : String) (default : Json) : Json :=
  (Json.get? name args).getD default

end Arguments

namespace Signature

/-- Names as a sentence lists them. -/
def listed : List String → String
  | [] => ""
  | [a] => Text.quoted a
  | [a, b] => Text.quoted a ++ " and " ++ Text.quoted b
  | a :: b :: rest => Text.quoted a ++ ", " ++ lastTwo b rest
where
  lastTwo (b : String) : List String → String
    | [] => Text.quoted b
    | [c] => Text.quoted b ++ ", and " ++ Text.quoted c
    | c :: rest => Text.quoted b ++ ", " ++ lastTwo c rest

def unexpected (s : Signature) (name : String) : Failure :=
  .foreign (.illTyped (s.name ++ " got an unexpected keyword argument " ++ Text.quoted name))

def missing (s : Signature) (names : List String) : Failure :=
  .foreign (.illTyped
    (s.name ++ " missing " ++ toString names.length ++ " required positional argument"
      ++ (if names.length = 1 then "" else "s") ++ ": " ++ listed names))

/-- Refuses arguments that do not fit; a name that is not known comes first. -/
def check (s : Signature) (args : Arguments) : Except Failure Unit :=
  match args.find? fun a => a.1 ∉ s.required ++ s.optional with
  | some (name, _) => .error (s.unexpected name)
  | none =>
    match s.required.filter fun name => (Json.get? name args).isNone with
    | [] => .ok ()
    | names => .error (s.missing names)

end Signature

end ResilientCalls
