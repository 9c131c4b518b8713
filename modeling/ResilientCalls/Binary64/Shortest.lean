import ResilientCalls.Binary64

namespace ResilientCalls.Binary64

/-- The reals that round to `mantissa * 2 ^ exponent`, scaled to integers: all of `low`, `mid`,
`high` are over the same denominator, and the ends belong to the interval when `closed`. -/
structure Interval where
  low : Nat
  mid : Nat
  high : Nat
  den : Nat
  closed : Bool

def Interval.of (mantissa : Nat) (exponent : Int) : Interval :=
  -- below a power of two the neighbours are twice as close
  let narrow := mantissa = Nat.pow 2 52 && -1074 < exponent
  let q := exponent - 2
  let scale := if 0 ≤ q then Nat.pow 2 q.toNat else 1
  { low := (4 * mantissa - if narrow then 1 else 2) * scale
    mid := 4 * mantissa * scale
    high := (4 * mantissa + 2) * scale
    den := if 0 ≤ q then 1 else Nat.pow 2 (-q).toNat
    closed := mantissa % 2 = 0 }

/-- A positive decimal `digits * 10 ^ exponent`. -/
structure Decimal where
  digits : Nat
  exponent : Int

/-- The neighbour of the value on the grid of multiples of `10 ^ e` that reads back, if any: of two
the nearer one, of two equally near ones the even one. -/
def Interval.onGrid? (i : Interval) (e : Int) : Option Decimal :=
  let up := if 0 ≤ e then 1 else Nat.pow 10 (-e).toNat
  let unit := i.den * if 0 ≤ e then Nat.pow 10 e.toNat else 1
  let inside := fun n : Nat =>
    if i.closed then i.low * up ≤ n * unit && n * unit ≤ i.high * up
    else i.low * up < n * unit && n * unit < i.high * up
  let below := i.mid * up / unit
  let twice := 2 * (i.mid * up % unit)
  match inside below, inside (below + 1) with
  | true, true =>
    let above := unit < twice || (unit = twice && below % 2 = 1)
    some ⟨if above then below + 1 else below, e⟩
  | true, false => some ⟨below, e⟩
  | false, true => some ⟨below + 1, e⟩
  | false, false => none

/-- Tries grids of one, two, and so on up to `n` digits more than `e` leaves. -/
def Interval.firstGrid (i : Interval) : (n : Nat) → (e : Int) → Decimal
  | 0, e => ⟨i.mid * (if 0 ≤ e then 1 else Nat.pow 10 (-e).toNat) / i.den, e⟩
  | n + 1, e => (i.onGrid? e).getD (i.firstGrid n (e - 1))

/-- The exponent of the leading decimal digit of a positive quotient. -/
def decimalExponent (num den : Nat) : Int :=
  let atLeast : Int → Bool := fun e =>
    if 0 ≤ e then den * Nat.pow 10 e.toNat ≤ num else den ≤ num * Nat.pow 10 (-e).toNat
  let guess : Int := ((num.log2 : Int) - (den.log2 : Int)) * 30103 / 100000
  if atLeast (guess + 1) then guess + 1
  else if atLeast guess then guess
  else if atLeast (guess - 1) then guess - 1 else guess - 2

def shortest (mantissa : Nat) (exponent : Int) : Decimal :=
  let i := Interval.of mantissa exponent
  i.firstGrid 18 (decimalExponent i.mid i.den)

/-- Digits without trailing zeros. -/
def significant (n : Nat) : List Char :=
  ((Nat.toDigits 10 n).reverse.dropWhile (· = '0')).reverse

/-- Least and greatest decimal exponent that is written positionally. -/
def positional : Int × Int := (-4, 15)

def magnitudeText (mantissa : Nat) (exponent : Int) : List Char :=
  if mantissa = 0 then ['0', '.', '0']
  else
    let d := shortest mantissa exponent
    let all := Nat.toDigits 10 d.digits
    let lead := d.exponent + (all.length : Int) - 1
    let ds := significant d.digits
    if positional.1 ≤ lead && lead ≤ positional.2 then
      if lead < 0 then
        '0' :: '.' :: List.replicate (-lead - 1).toNat '0' ++ ds
      else
        let whole := lead.toNat + 1
        let fraction := ds.drop whole
        ds.take whole ++ List.replicate (whole - ds.length) '0' ++
          '.' :: (if fraction.isEmpty then ['0'] else fraction)
    else
      let size := Nat.toDigits 10 lead.natAbs
      ds.take 1 ++ (if ds.length = 1 then [] else '.' :: ds.drop 1) ++
        ['e', if lead < 0 then '-' else '+'] ++
        (if size.length < 2 then '0' :: size else size)

/-- The shortest text of a double. -/
def text (x : Binary64) : String :=
  match x.value with
  | .nan => "nan"
  | .infinite negative => if negative then "-inf" else "inf"
  | .finite negative m e =>
    String.ofList ((if negative then ['-'] else []) ++ magnitudeText m e)

end ResilientCalls.Binary64
