import ResilientCalls.Binary64

namespace ResilientCalls

/-- A number in the form in which it was given. It is compared by its exact value. -/
inductive Number where
  | whole (n : Int)
  | truth (b : Bool)
  | double (x : Binary64)
  deriving DecidableEq

namespace Number

instance (n : Nat) : OfNat Number n := ⟨.whole n⟩

/-- The whole number that a truth value counts as. -/
def ofTruth (b : Bool) : Int := if b then 1 else 0

/-- The value without its form: whole, or a double. -/
def value : Number → Int ⊕ Binary64
  | whole n => .inl n
  | truth b => .inl (ofTruth b)
  | double x => .inr x

/-- How two numbers compare; with a double that is no number they do not. -/
def compare? (a b : Number) : Option Ordering :=
  match a.value, b.value with
  | .inl m, .inl n => some (compare m n)
  | .inl m, .inr y => (y.compareInt? m).map Ordering.swap
  | .inr x, .inl n => x.compareInt? n
  | .inr x, .inr y => x.compare? y

def isBelow (a b : Number) : Bool := a.compare? b = some .lt

def exceeds (a b : Number) : Bool := a.compare? b = some .gt

def equals (a b : Number) : Bool := a.compare? b = some .eq

def reaches (a b : Number) : Bool := a.exceeds b || a.equals b

theorem isBelow_whole (m n : Int) : isBelow (whole m) (whole n) = decide (m < n) := by
  simp [isBelow, compare?, value, Int.compare_eq_lt]

theorem exceeds_whole (m n : Int) : exceeds (whole m) (whole n) = decide (n < m) := by
  simp [exceeds, compare?, value, Int.compare_eq_gt]

theorem equals_whole (m n : Int) : equals (whole m) (whole n) = decide (m = n) := by
  simp [equals, compare?, value]

theorem reaches_whole (m n : Int) : reaches (whole m) (whole n) = decide (n ≤ m) := by
  rw [reaches, exceeds_whole, equals_whole, ← Bool.decide_or]
  exact decide_eq_decide.2 (by omega)

/-- Is a number other than zero? A double that is no number is. -/
def holds (a : Number) : Bool := !a.equals 0

/-- The nearest double, if one is in range. -/
def toBinary64? (a : Number) : Option Binary64 :=
  match a.value with
  | .inl n => Binary64.ofInt? n
  | .inr x => some x

/-- An operation on two numbers, exact on whole ones; with a double it is done on doubles, if both
numbers are in their range. -/
def combine? (exact : Int → Int → Int) (rounded : Binary64 → Binary64 → Binary64) (a b : Number) :
    Option Number :=
  match a.value, b.value with
  | .inl m, .inl n => some (.whole (exact m n))
  | _, _ => do return .double (rounded (← a.toBinary64?) (← b.toBinary64?))

def minus? : Number → Number → Option Number := combine? (· - ·) (· - ·)

def times? : Number → Number → Option Number := combine? (· * ·) (· * ·)

/-- One more. -/
def next (a : Number) : Number :=
  match a.value with
  | .inl n => .whole (n + 1)
  | .inr x => .double (x + 1)

/-- One less, but not below zero. -/
def previous (a : Number) : Number :=
  let less : Number := match a.value with
    | .inl n => .whole (n - 1)
    | .inr x => .double (x - 1)
  if less.exceeds 0 then less else 0

end Number

end ResilientCalls
