/-!
# Exact Value of a Double

A finite double is a whole number times a power of two. The numbers that round to it lie between
the midpoints to its two neighbours.
-/

namespace Promptbook.Decimal

/-- What the sixty-four bits of a double stand for. -/
inductive Binary where
  /-- Not a number. -/
  | undefined
  /-- An infinity. -/
  | infinite (negative : Bool)
  /-- The number `mantissa * 2 ^ exponent`, or its opposite. -/
  | finite (negative : Bool) (mantissa : Nat) (exponent : Int)
  deriving DecidableEq

namespace Binary

/-- The leading bit of a mantissa, which is not written. -/
def leadingBit : Nat := 0x10000000000000

/-- The meaning of the sixty-four bits of a double. -/
def ofBits (bits : Nat) : Binary :=
  let negative := bits.testBit 63
  let field : Nat := (bits >>> 52) % 0x800
  let fraction : Nat := bits % leadingBit
  if field == 2047 then
    if fraction == 0 then infinite negative else undefined
  else if field == 0 then finite negative fraction (-1074)
  else finite negative (leadingBit + fraction) ((field : Int) - 1075)

/-- The meaning of a double. -/
def ofFloat (x : Float) : Binary :=
  ofBits x.toBits.toNat

end Binary

/-- A fraction of natural numbers, `num / den`. -/
structure Ratio where
  /-- The numerator. -/
  num : Nat
  /-- The denominator. -/
  den : Nat
  deriving DecidableEq

namespace Ratio

/-- The number `n * 2 ^ e`. -/
def ofBinary (n : Nat) (e : Int) : Ratio :=
  match e with
  | .ofNat k => ⟨n <<< k, 1⟩
  | .negSucc k => ⟨n, 1 <<< (k + 1)⟩

/-- The number `n * 10 ^ e`. -/
def ofDecimal (n : Nat) (e : Int) : Ratio :=
  match e with
  | .ofNat k => ⟨n * Nat.pow 10 k, 1⟩
  | .negSucc k => ⟨n, Nat.pow 10 (k + 1)⟩

/-- Whether the first fraction is smaller. -/
def lt (p q : Ratio) : Bool :=
  p.num * q.den < q.num * p.den

/-- Whether the first fraction is smaller or equal. -/
def le (p q : Ratio) : Bool :=
  p.num * q.den ≤ q.num * p.den

/-- The distance between two fractions. -/
def distance (p q : Ratio) : Ratio :=
  ⟨(p.num * q.den - q.num * p.den) + (q.num * p.den - p.num * q.den), p.den * q.den⟩

/-- The greatest whole number `d` with `d * 10 ^ e ≤ p`. -/
def floorAt (p : Ratio) (e : Int) : Nat :=
  match e with
  | .ofNat k => p.num / (p.den * Nat.pow 10 k)
  | .negSucc k => p.num * Nat.pow 10 (k + 1) / p.den

end Ratio

/-- The interval of the numbers that round to a double. -/
structure RoundingInterval where
  /-- The lower end. -/
  low : Ratio
  /-- The upper end. -/
  high : Ratio
  /-- Whether the ends themselves round to the double, which they do if its mantissa is even. -/
  closed : Bool

namespace RoundingInterval

/-- The numbers that round to `mantissa * 2 ^ exponent`. Below a power of two the neighbours are
twice as dense. -/
def around (mantissa : Nat) (exponent : Int) : RoundingInterval :=
  let low :=
    if mantissa == Binary.leadingBit && exponent != -1074 then
      Ratio.ofBinary (4 * mantissa - 1) (exponent - 2)
    else Ratio.ofBinary (2 * mantissa - 1) (exponent - 1)
  ⟨low, Ratio.ofBinary (2 * mantissa + 1) (exponent - 1), mantissa % 2 == 0⟩

/-- Whether a number rounds to the double. -/
def contains (interval : RoundingInterval) (p : Ratio) : Bool :=
  if interval.closed then interval.low.le p && p.le interval.high
  else interval.low.lt p && p.lt interval.high

end RoundingInterval

end Promptbook.Decimal
