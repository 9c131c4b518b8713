namespace ResilientCalls.Http.Host

/-- The least value of a digit that another one follows. -/
def threshold (bias position : Nat) : Nat := max 1 (min 26 (36 * (position + 1) - bias))

theorem threshold_pos (bias position : Nat) : 1 ≤ threshold bias position := by
  unfold threshold; omega

/-- A number divided by 35 until it is at most 455, with 36 for each division. -/
def scaled (sum n : Nat) : Nat × Nat :=
  if 455 < n then scaled (sum + 36) (n / 35) else (sum, n)
termination_by n
decreasing_by omega

/-- The bias for the number after `n`, once there are so many characters. -/
def nextBias (n : Nat) (isFirst : Bool) (characters : Nat) : Nat :=
  let n := if isFirst then n / 700 else n / 2
  let (sum, n) := scaled 0 (n + n / characters)
  sum + 36 * n / (n + 38)

def firstBias : Nat := 72

/-- The first code point outside ASCII. -/
def firstBeyond : Nat := 0x80

def lastCode : Nat := 0x10FFFF

/-- The code point of a digit. -/
def digitCode (d : Nat) : Nat := if d < 26 then 0x61 + d else 0x16 + d

def digitOfCode? (c : Nat) : Option Nat :=
  if 0x61 ≤ c && c ≤ 0x7A then some (c - 0x61)
  else if 0x30 ≤ c && c ≤ 0x39 then some (c - 0x16)
  else none

/-- The digits of a number from a position on. -/
def numberDigits (bias position n : Nat) : List Nat :=
  let t := threshold bias position
  if n < t then [n]
  else (t + (n - t) % (36 - t)) :: numberDigits bias (position + 1) ((n - t) / (36 - t))
termination_by n
decreasing_by
  have := threshold_pos bias position
  have := Nat.div_le_self (n - threshold bias position) (36 - threshold bias position)
  omega

/-- A label that is being written: the places passed over since the last number, and what is
written of the characters outside ASCII. -/
structure Writing where
  passed : Nat
  bias : Nat
  characters : Nat
  digits : List Nat

/-- Passes over the character `x` of a label in which the first `c` are written next. -/
def Writing.pass (basic c : Nat) (w : Writing) (x : Nat) : Writing :=
  if x < c then { w with passed := w.passed + 1 }
  else if x = c then
    { passed := 0
      bias := nextBias w.passed (w.characters = basic) (w.characters + 1)
      characters := w.characters + 1
      digits := w.digits ++ numberDigits w.bias 0 w.passed }
  else w

/-- Writes the code points of a label that are in a list, the next possible one being `from_`. -/
def writeCodes (label : List Nat) (basic from_ : Nat) (w : Writing) : List Nat → List Nat
  | [] => w.digits
  | c :: rest =>
    let w := { w with passed := w.passed + (c - from_) * (w.characters + 1) }
    let w := label.foldl (Writing.pass basic c) w
    writeCodes label basic (c + 1) { w with passed := w.passed + 1 } rest

def inOrder (codes : List Nat) : List Nat := (codes.mergeSort fun a b => a ≤ b).eraseDups

/-- The ASCII form of a label: first the characters that are in ASCII anyway, then one number for
each of the others, in the order of their code points. -/
def punycode (label : List Nat) : List Nat :=
  let basic := label.filter (· < firstBeyond)
  let others := inOrder (label.filter (firstBeyond ≤ ·))
  let digits := writeCodes label basic.length firstBeyond ⟨0, firstBias, basic.length, []⟩ others
  basic ++ (if basic = [] then [] else [0x2D]) ++ digits.map digitCode

/-- A label that is being read: its characters so far, the last of them in order, the place after
it, and the number at hand. -/
structure Reading where
  label : List Nat
  code : Nat
  place : Nat
  bias : Nat
  isFirst : Bool
  sum : Nat
  weight : Nat
  position : Nat

/-- Takes one digit; the last one of a number puts a character in. -/
def Reading.step (r : Reading) (d : Nat) : Option Reading :=
  let t := threshold r.bias r.position
  let sum := r.sum + d * r.weight
  if t ≤ d then
    some { r with sum, weight := r.weight * (36 - t), position := r.position + 1 }
  else
    let places := r.label.length + 1
    let code := r.code + (r.place + sum) / places
    let place := (r.place + sum) % places
    if lastCode < code then none
    else
      some { label := r.label.insertIdx place code, code, place := place + 1
             bias := nextBias sum r.isFirst places, isFirst := false
             sum := 0, weight := 1, position := 0 }

/-- The text before the last hyphen, if there is one, and that after it. -/
def cutLastHyphen (cs : List Nat) : List Nat × List Nat :=
  let tail := (cs.reverse.takeWhile (· ≠ 0x2D)).reverse
  (cs.take (cs.length - tail.length - 1), tail)

/-- The label that an ASCII form stands for. -/
def ofPunycode? (cs : List Nat) : Option (List Nat) := do
  let (basic, digits) := cutLastHyphen cs
  let start : Reading := ⟨basic, firstBeyond, 0, firstBias, true, 0, 1, 0⟩
  let r ← (← digits.mapM digitOfCode?).foldlM Reading.step start
  if r.position = 0 then some r.label else none

end ResilientCalls.Http.Host
