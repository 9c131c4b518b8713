import ResilientCalls.Failure

namespace ResilientCalls

/-- How much of a window is left, in whole milliseconds, rounded up, and zero once it has passed. -/
class Clock (τ : Type) where
  /-- What is left at `now` of a window of so many milliseconds that began at `opened`. -/
  remainingMs : (window : Number) → (opened now : τ) → Except Failure Nat

namespace Clock

/-- The least whole number that is not below a number, or zero if that is negative. -/
def roundedUp (left : Number) : Except Failure Nat :=
  match left.value with
  | .inl n => .ok n.toNat
  | .inr x =>
    match x.ceiling? with
    | some n => .ok n.toNat
    | none =>
      if x.isNaN then .error (.foreign (.value "cannot convert float NaN to integer"))
      else .error (.foreign (.outOfRange "cannot convert float infinity to integer"))

/-- Seconds as numbers: exact if all are whole, and in doubles otherwise. -/
def remainingSeconds (window opened now : Number) : Except Failure Nat :=
  let left : Option Number := do window.minus? (← (← now.minus? opened).times? 1000)
  match left with
  | none => .error (.foreign .tooLarge)
  | some left => roundedUp left

instance : Clock Number where
  remainingMs := remainingSeconds

end Clock

end ResilientCalls
