import Promptbook.Decimal.Binary

/-!
# Shortest Decimal Digits

The shortest decimal number that rounds to a given double, and of the shortest ones the nearest.
For one digit, two digits and so on, the two neighbours of the double among the decimal numbers
with that many digits are tested; seventeen digits always suffice.
-/

namespace Promptbook.Decimal

/-- The number of decimal digits of a natural number; zero has none. -/
def digitCount (n : Nat) : Nat :=
  if n == 0 then 0 else (Nat.toDigits 10 n).length

/-- The decimal exponent of the first digit of a positive fraction: the greatest `e` with
`10 ^ e ≤ p`. -/
def leadingExponent (p : Ratio) : Int :=
  if p.den ≤ p.num then (digitCount (p.num / p.den) : Int) - 1
  else -(digitCount ((p.den + p.num - 1) / p.num - 1) : Int)

/-- A decimal number `digits * 10 ^ exponent`. -/
structure Digits where
  /-- All digits, read as one natural number. -/
  digits : Nat
  /-- The power of ten that the last digit counts. -/
  exponent : Int
  deriving DecidableEq, Repr

namespace Digits

/-- The exact value. -/
def value (d : Digits) : Ratio :=
  Ratio.ofDecimal d.digits d.exponent

/-- The neighbour of `p` among the multiples of `10 ^ exponent` that lies in the interval, the
nearer one if both do, and the even one if both are equally near. -/
def onGrid? (p : Ratio) (interval : RoundingInterval) (exponent : Int) : Option Digits :=
  let below : Digits := ⟨p.floorAt exponent, exponent⟩
  let above : Digits := ⟨p.floorAt exponent + 1, exponent⟩
  -- Zero is no candidate: it has no digits to show.
  match interval.contains below.value && below.digits != 0, interval.contains above.value with
  | true, true =>
    let toBelow := p.distance below.value
    let toAbove := p.distance above.value
    if toBelow.lt toAbove then some below
    else if toAbove.lt toBelow then some above
    else if below.digits % 2 == 0 then some below else some above
  | true, false => some below
  | false, true => some above
  | false, false => none

/-- The first grid with a hit, from `count` digits on, trying `fuel` more grids after it. -/
def firstHit (p : Ratio) (interval : RoundingInterval) (lead : Int) : (fuel count : Nat) → Digits
  -- Seventeen digits tell all doubles apart, so the grids do not run out.
  | 0, count => ⟨p.floorAt (lead - count + 1), lead - count + 1⟩
  | fuel + 1, count =>
    match onGrid? p interval (lead - count + 1) with
    | some d => d
    | none => firstHit p interval lead fuel (count + 1)

/-- The shortest decimal number that rounds to the positive double `mantissa * 2 ^ exponent`. -/
def shortest (mantissa : Nat) (exponent : Int) : Digits :=
  let p := Ratio.ofBinary mantissa exponent
  firstHit p (RoundingInterval.around mantissa exponent) (leadingExponent p) 17 1

/-- The decimal exponent of the first digit. -/
def lead (d : Digits) : Int :=
  d.exponent + digitCount d.digits - 1

/-- The digits without trailing zeros, which the exponent takes over. -/
def stripZeros : (fuel : Nat) → Digits → Digits
  | 0, d => d
  | fuel + 1, d =>
    if d.digits != 0 && d.digits % 10 == 0 then stripZeros fuel ⟨d.digits / 10, d.exponent + 1⟩
    else d

end Digits

end Promptbook.Decimal
