import Promptbook.Decimal.Binary

/-!
# Remainders of Doubles

The remainder of a division of doubles, which is a double again: both are whole multiples of one
power of two, and so is the remainder.
-/

namespace Promptbook.Decimal

/-- The whole number that `m * 2 ^ e` is in units of `2 ^ unit`, for a unit not above `e`. -/
def inUnits (m : Nat) (e unit : Int) : Nat :=
  m <<< (e - unit).toNat

/-- The remainder of dividing `x` by `y`, with the sign of `x`. -/
def remainder (x y : Float) : Float :=
  match Binary.ofFloat x, Binary.ofFloat y with
  | .finite negative m e, .finite _ n f =>
    if n == 0 then 0.0 / 0.0
    else
      let unit := min e f
      let r := inUnits m e unit % inUnits n f unit
      let size := Float.scaleB (Float.ofNat r) unit
      if negative then -size else size
  | .finite _ _ _, .infinite _ => x
  | _, _ => 0.0 / 0.0

end Promptbook.Decimal
