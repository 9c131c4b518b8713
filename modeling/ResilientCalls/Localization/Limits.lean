import ResilientCalls.Localization.Model

namespace ResilientCalls.Localization.Batch

def maxEntries : Nat := 50

def maxCharacters : Nat := 20000

/-- The keys that occur again, each once, in the order of their second occurrence. -/
def repeated (seen found : List String) : List String → List String
  | [] => found.reverse
  | key :: rest =>
    repeated (key :: seen) (if key ∈ seen ∧ key ∉ found then key :: found else found) rest

def duplicateKeys (b : Batch) : List String := repeated [] [] (b.entries.map (·.key.val))

/-- A rule that a batch breaks. -/
structure Breach where
  field : String
  message : String
  deriving DecidableEq

def Breach.toJson (b : Breach) : Json :=
  .object [("field", .text b.field), ("message", .text b.message)]

def breaches (b : Batch) : List Breach :=
  let entries := b.entries.length
  let characters := b.characterCount
  let duplicates := b.duplicateKeys
  (if maxEntries < entries then
    [⟨"entries", s!"Batch has {entries} entries; maximum is {maxEntries}"⟩] else []) ++
  (if maxCharacters < characters then
    [⟨"entries", s!"Batch has {characters} characters; maximum is {maxCharacters}"⟩] else []) ++
  (if duplicates = [] then []
    else [⟨"entries.key", "Duplicate keys: " ++ ", ".intercalate duplicates⟩])

/-- Refuses a batch that breaks a rule. -/
def checkLimits (b : Batch) : Except Failure Unit :=
  match b.breaches with
  | [] => .ok ()
  | bs => .error (.validation "Invalid translation batch" (bs.map Breach.toJson))

end ResilientCalls.Localization.Batch
