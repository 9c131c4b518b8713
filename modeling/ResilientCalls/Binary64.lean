namespace ResilientCalls

/-- A double, by its 64 bits. -/
structure Binary64 where
  bits : UInt64
  deriving DecidableEq, Inhabited

namespace Binary64

inductive Value where
  | nan
  | infinite (negative : Bool)
  | finite (negative : Bool) (mantissa : Nat) (exponent : Int)

/-- The exact value of a double. -/
def value (x : Binary64) : Value :=
  let bits := x.bits.toNat
  let negative := bits / Nat.pow 2 63 = 1
  let exponent : Nat := bits / Nat.pow 2 52 % 2048
  let fraction := bits % Nat.pow 2 52
  if exponent = 2047 then
    if fraction = 0 then .infinite negative else .nan
  else if exponent = 0 then .finite negative fraction (-1074)
  else .finite negative (Nat.pow 2 52 + fraction) ((exponent : Int) - 1075)

def ofBits (negative : Bool) (magnitude : Nat) : Binary64 :=
  ⟨UInt64.ofNat ((if negative then Nat.pow 2 63 else 0) + magnitude)⟩

def infinity (negative : Bool) : Binary64 := ofBits negative (2047 * Nat.pow 2 52)

/-- No number, with a sign. -/
def noNumber (negative : Bool) : Binary64 := ofBits negative (4095 * Nat.pow 2 51)

def isNaN (x : Binary64) : Bool :=
  match x.value with
  | .nan => true
  | _ => false

def isInfinite (x : Binary64) : Bool :=
  match x.value with
  | .infinite _ => true
  | _ => false

def isFinite (x : Binary64) : Bool :=
  match x.value with
  | .finite .. => true
  | _ => false

/-- `a / b` rounded to the nearest integer, a tie to the even one. -/
def divNearest (a b : Nat) : Nat :=
  let q := a / b
  let r := 2 * (a % b)
  if r < b then q else if b < r then q + 1 else q + q % 2

/-- The double nearest to `num / den`; past the largest finite one it is infinite. -/
def ofRatio (negative : Bool) (num den : Nat) : Binary64 :=
  if num = 0 then ofBits negative 0
  else
    -- `2 ^ e` is the spacing of doubles around the quotient, found to within one step
    let scale : Int → Nat := fun e =>
      if 0 ≤ e then divNearest num (den * Nat.pow 2 e.toNat)
      else divNearest (num * Nat.pow 2 (-e).toNat) den
    let low : Int → Bool := fun e =>
      if 0 ≤ e then num < Nat.pow 2 52 * (den * Nat.pow 2 e.toNat)
      else num * Nat.pow 2 (-e).toNat < Nat.pow 2 52 * den
    let guess : Int := (num.log2 : Int) - (den.log2 : Int) - 52
    let e := max (-1074) (if low guess then guess - 1 else guess)
    let magnitude := (e + 1074).toNat * Nat.pow 2 52 + scale e
    if 2047 * Nat.pow 2 52 ≤ magnitude then infinity negative else ofBits negative magnitude

/-- The double nearest to `digits * 10 ^ exponent`. -/
def ofDecimal (negative : Bool) (digits : Nat) (exponent : Int) : Binary64 :=
  let least := exponent + (digits.log2 * 3 / 10 : Nat)
  let most := exponent + (digits.log2 / 3 + 1 : Nat)
  if digits = 0 then ofBits negative 0
  else if 400 < least then infinity negative
  else if most < -400 then ofBits negative 0
  else if 0 ≤ exponent then ofRatio negative (digits * Nat.pow 10 exponent.toNat) 1
  else ofRatio negative digits (Nat.pow 10 (-exponent).toNat)

/-- The double nearest to an integer, if one is in range. -/
def ofInt? (n : Int) : Option Binary64 :=
  let x := if n.natAbs.log2 > 1024 then infinity (n < 0) else ofRatio (n < 0) n.natAbs 1
  if x.isInfinite then none else some x

/-- The integer part, toward zero; `none` for the values that have none. -/
def truncate? (x : Binary64) : Option Int :=
  match x.value with
  | .finite negative m e =>
    let n : Nat := if 0 ≤ e then m * Nat.pow 2 e.toNat else m / Nat.pow 2 (-e).toNat
    some (if negative then -(n : Int) else n)
  | _ => none

/-- The least integer that is not below the value. -/
def ceiling? (x : Binary64) : Option Int :=
  match x.value with
  | .finite negative m e =>
    let signed : Int := if negative then -(m : Int) else m
    some (if 0 ≤ e then signed * Nat.pow 2 e.toNat else -((-signed) / Nat.pow 2 (-e).toNat))
  | _ => none

def isIntegral (x : Binary64) : Bool :=
  match x.value with
  | .finite _ m e => 0 ≤ e || m % Nat.pow 2 (-e).toNat = 0
  | _ => false

/-- The double nearest to the value rounded to `places` decimals. -/
def roundPlaces (x : Binary64) (places : Nat) : Binary64 :=
  match x.value with
  | .finite negative m e =>
    if 0 ≤ e then x
    else
      let unit := Nat.pow 10 places
      ofRatio negative (divNearest (m * unit) (Nat.pow 2 (-e).toNat)) unit
  | _ => x

instance (n : Nat) : OfNat Binary64 n := ⟨ofRatio false n 1⟩

instance : OfScientific Binary64 where
  ofScientific m isSmall e := ofDecimal false m (if isSmall then -(e : Int) else e)

/-- The place of a double in the order of its values, if it is a number. -/
def rank? (x : Binary64) : Option Int :=
  let magnitude : Nat := x.bits.toNat % Nat.pow 2 63
  if x.isNaN then none
  else some (if x.bits.toNat / Nat.pow 2 63 = 1 then -(magnitude : Int) else magnitude)

/-- How two doubles compare; with one that is no number they do not. -/
def compare? (x y : Binary64) : Option Ordering := do return compare (← x.rank?) (← y.rank?)

/-- How a double compares to an integer. -/
def compareInt? (x : Binary64) (n : Int) : Option Ordering :=
  match x.value with
  | .nan => none
  | .infinite negative => some (if negative then .lt else .gt)
  | .finite negative m e =>
    let signed : Int := if negative then -(m : Int) else m
    some (if 0 ≤ e then compare (signed * Nat.pow 2 e.toNat) n
      else compare signed (n * Nat.pow 2 (-e).toNat))

instance : LT Binary64 := ⟨fun x y => x.compare? y = some .lt⟩

instance (x y : Binary64) : Decidable (x < y) :=
  inferInstanceAs (Decidable (x.compare? y = some .lt))

/-- An operation on doubles. An operand that is no number is passed on, the first one first; where
an operation has no result, the result is the negative one of those that are no number. -/
def lift (op : Float → Float → Float) (x y : Binary64) : Binary64 :=
  if x.isNaN then x
  else if y.isNaN then y
  else
    let z := op (Float.ofBits x.bits) (Float.ofBits y.bits)
    if z.isNaN then noNumber true else ⟨z.toBits⟩

instance : Add Binary64 := ⟨lift (· + ·)⟩

instance : Sub Binary64 := ⟨lift (· - ·)⟩

instance : Mul Binary64 := ⟨lift (· * ·)⟩

instance : Div Binary64 := ⟨lift (· / ·)⟩

/-- A power with a whole exponent. -/
def power (base : Binary64) (exponent : Nat) : Binary64 :=
  if exponent = 0 then 1 else lift (· ^ ·) base (ofRatio false exponent 1)

end Binary64

end ResilientCalls
