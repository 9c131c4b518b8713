import ResilientCalls.Failure
import ResilientCalls.Text.Written

namespace ResilientCalls.Json

/-- How many characters of a text are shown when it is no whole number. -/
def shownDigits : Nat := 200

/-- The integer that a value stands for; a double is cut toward zero. -/
def toInt : Json → Except Failure Int
  | .int n => .ok n
  | .bool b => .ok (Number.ofTruth b)
  | .float x =>
    match x.truncate? with
    | some n => .ok n
    | none =>
      if x.isNaN then .error (.foreign (.value "cannot convert float NaN to integer"))
      else .error (.foreign (.outOfRange "cannot convert float infinity to integer"))
  | .text s =>
    match Text.wholeNumber s.toList with
    | .integer n => .ok n
    | .tooLong digits => .error (.foreign (.value (Text.tooLongMessage digits)))
    | .malformed =>
      .error (.foreign (.value ("invalid literal for int() with base 10: "
        ++ String.ofList ((Text.quoted s).toList.take shownDigits))))
  | j =>
    .error (.foreign (.illTyped
      ("int() argument must be a string, a bytes-like object or a real number, not '"
        ++ j.typeName ++ "'")))

/-- The double that a value stands for. -/
def toFloat : Json → Except Failure Binary64
  | .int n =>
    match Binary64.ofInt? n with
    | some x => .ok x
    | none => .error (.foreign .tooLarge)
  | .float x => .ok x
  | .bool b => .ok (if b then 1 else 0)
  | .text s =>
    match Text.writtenFloat? s.toList with
    | some x => .ok x
    | none =>
      .error (.foreign (.value ("could not convert string to float: " ++ Text.quoted s)))
  | j => .error (.foreign (.notNumber j.typeName))

/-- The number that a value is; an operator compares it to a whole one. -/
def comparable (operator : String) (j : Json) : Except Failure Number :=
  match j.number? with
  | some a => .ok a
  | none => .error (.foreign (.notComparable operator j.typeName "int"))

end ResilientCalls.Json
