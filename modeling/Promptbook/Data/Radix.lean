/-!
# Numbers to a Base

Reads digits to any base up to thirty-six. The value of digits grows by one digit at a time.
-/

namespace Promptbook.Radix

/-- The number that a digit stands for; letters of either case follow the decimal digits. -/
def digitValue? (c : Char) : Option Nat :=
  if c.isDigit then some (c.toNat - '0'.toNat)
  else if c.isLower then some (c.toNat - 'a'.toNat + 10)
  else if c.isUpper then some (c.toNat - 'A'.toNat + 10)
  else none

/-- The number that a digit to a base stands for. -/
def digit? (base : Nat) (c : Char) : Option Nat :=
  (digitValue? c).filter (· < base)

/-- The number that digits to a base stand for behind the digits of `n`. -/
def extend? (base n : Nat) (digits : List Char) : Option Nat :=
  digits.foldlM (fun n c => (digit? base c).map fun d => base * n + d) n

/-- The number that digits to a base stand for, if there is one and all are digits. -/
def read? (base : Nat) (digits : List Char) : Option Nat :=
  if digits.isEmpty then none else extend? base 0 digits

end Promptbook.Radix
