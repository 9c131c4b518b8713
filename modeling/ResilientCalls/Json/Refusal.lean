import ResilientCalls.Text.CodePoint
import ResilientCalls.Text.Digit

namespace ResilientCalls.Json

inductive Container where
  | array
  | object
  deriving DecidableEq

/-- What is wrong with a text at some place. -/
inductive Flaw where
  | noValue
  | noName
  | noColon
  | noComma
  | extraData
  | openString
  | controlCharacter
  | badEscape
  | badCodeUnit
  | byteOrderMark
  deriving DecidableEq

/-- Why a text is not read. -/
inductive Refusal where
  | malformed (flaw : Flaw) (place : Nat)
  | tooDeep (container : Container)
  | tooLong (digits : Nat)
  deriving DecidableEq

/-- How deep containers may be nested. The reader of a text refuses deeper ones, by the stack that
is left to it; a list of records always fits. -/
class Depth where
  most : Nat
  two_le : 2 ≤ most

/-- For callers that know nothing of the stack. -/
instance : Depth := ⟨1000, by decide⟩

def Flaw.message : Flaw → String
  | .noValue => "Expecting value"
  | .noName => "Expecting property name enclosed in double quotes"
  | .noColon => "Expecting ':' delimiter"
  | .noComma => "Expecting ',' delimiter"
  | .extraData => "Extra data"
  | .openString => "Unterminated string starting at"
  | .controlCharacter => "Invalid control character at"
  | .badEscape => "Invalid \\escape"
  | .badCodeUnit => "Invalid \\uXXXX escape"
  | .byteOrderMark => "Unexpected UTF-8 BOM (decode using utf-8-sig)"

def Container.name : Container → String
  | .array => "array"
  | .object => "object"

/-- Line and column, from one, of a place in a text. -/
def lineColumn (ps : CodePoints) (place : Nat) : Nat × Nat :=
  let before := ps.take place
  (before.count (.char '\n') + 1, (before.reverse.takeWhile (· ≠ .char '\n')).length + 1)

/-- The message of a refusal of the text. -/
def Refusal.message (ps : CodePoints) : Refusal → String
  | .malformed flaw place =>
    let (line, column) := lineColumn ps place
    s!"{flaw.message}: line {line} column {column} (char {place})"
  | .tooDeep c =>
    s!"maximum recursion depth exceeded while decoding a JSON {c.name} from a unicode string"
  | .tooLong digits => Text.tooLongMessage digits

end ResilientCalls.Json
