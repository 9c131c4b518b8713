import ResilientCalls.Json.Equality
import ResilientCalls.Json.Items
import ResilientCalls.Summary.Extract
import ResilientCalls.Summary.Prompt

namespace ResilientCalls.Summary

/-- The style that a value names. -/
def Style.ofJson (j : Json) : Except Foreign Style :=
  match j with
  | .text name => (Json.get? name styles).elim (.error (.missingKey j)) .ok
  | _ => j.checkKey.bind fun _ => .error (.missingKey j)

def loosePrompt (maxLength style language : Json) : Except Foreign String := do
  return promptFor maxLength.plain (← Style.ofJson style) language.plain

/-- The extract of a text for a length that need not be whole: a text that is longer than the budget
is cut only at a whole place. -/
def fractionalExtract (text : String) (maxLength : Binary64) : Except Foreign String :=
  let limit := Number.double (maxLength * 6)
  if limit.exceeds 100 then
    let cs := joined ((sentences (Text.trim text.toList)).take extractSentences)
    if limit.isBelow (.whole cs.length) then
      .error (.illTyped "slice indices must be integers or None or have an __index__ method")
    else .ok (String.ofList cs)
  else .ok (extract text 0)

def looseExtract (text maxLength : Json) : Except Foreign String := do
  let text ← text.textFor "strip"
  if Text.allBlank text then return unavailable
  match maxLength with
  | .int n => return extract text n
  | .bool b => return extract text (if b then 1 else 0)
  | .float x => fractionalExtract text x
  | .text _ | .list _ => throw (.notComparable ">" maxLength.typeName "int")
  | _ => throw (.notOperands "*" maxLength.typeName "int")

end ResilientCalls.Summary
