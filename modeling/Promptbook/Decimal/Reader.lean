import Promptbook.Data.Whole

/-!
# Reading Decimal Numbers

The double nearest to a decimal number, and the spelling of numbers in free text: an optional sign,
digits with at most one point among them, an optional exponent, or one of the words for infinity
and for an undefined number in any letter case.
-/

namespace Promptbook.Decimal

/-- The double nearest to `digits * 10 ^ exponent`. Beyond the range of doubles the answer is
decided by the number of digits, so no large power is formed. -/
def nearest (digits : Nat) (exponent : Int) : Float :=
  let size := (Nat.toDigits 10 digits).length
  if digits == 0 then 0
  else if exponent + size > 400 then 1.0 / 0.0
  else if exponent + size < -400 then 0
  else match exponent with
    | .ofNat k => Float.ofScientific digits false k
    | .negSucc k => Float.ofScientific digits true (k + 1)

/-- The natural number that a list of digits spells. -/
def digitsValue (digits : List Char) : Nat :=
  digits.foldl (fun n c => 10 * n + (c.toNat - '0'.toNat)) 0

/-- The parts of a decimal numeral after its sign. -/
structure Numeral where
  /-- The digits before the point. -/
  whole : List Char
  /-- The digits after the point, if there is a point. -/
  fraction : Option (List Char)
  /-- The exponent with its sign, if there is one: whether it is negative, and its digits. -/
  exponent : Option (Bool × List Char)

namespace Numeral

/-- Cut the sign off an exponent or a number: whether it is negative, and what follows. -/
def takeSign : List Char → Bool × List Char
  | '-' :: rest => (true, rest)
  | '+' :: rest => (false, rest)
  | rest => (false, rest)

/-- Split a text into the parts of a numeral and what follows them. An exponent mark counts only
with digits behind it. -/
def split (s : List Char) : Numeral × List Char :=
  let whole := s.takeWhile Char.isDigit
  let afterWhole := s.dropWhile Char.isDigit
  let (fraction, afterFraction) := match afterWhole with
    | '.' :: rest => (some (rest.takeWhile Char.isDigit), rest.dropWhile Char.isDigit)
    | rest => (none, rest)
  let (exponent, rest) := match afterFraction with
    | mark :: rest =>
      if mark == 'e' || mark == 'E' then
        let (negative, digits) := takeSign rest
        if (digits.takeWhile Char.isDigit).isEmpty then (none, afterFraction)
        else (some (negative, digits.takeWhile Char.isDigit), digits.dropWhile Char.isDigit)
      else (none, afterFraction)
    | [] => (none, [])
  (⟨whole, fraction, exponent⟩, rest)

/-- The power of ten that the exponent stands for. -/
def power (numeral : Numeral) : Int :=
  match numeral.exponent with
  | none => 0
  | some (negative, digits) =>
    let n : Int := digitsValue digits
    if negative then -n else n

/-- The double nearest to the numeral, with the given sign. -/
def toFloat (numeral : Numeral) (negative : Bool) : Float :=
  let fraction := numeral.fraction.getD []
  let x := nearest (digitsValue (numeral.whole ++ fraction)) (numeral.power - fraction.length)
  if negative then -x else x

end Numeral

/-- The double that a text spells, if it spells one. -/
def read? (text : String) : Option Float :=
  let (negative, s) := Numeral.takeSign text.toList
  let word := String.ofList (s.map Char.toLower)
  if word == "inf" || word == "infinity" then
    some (if negative then -(1.0 / 0.0) else 1.0 / 0.0)
  else if word == "nan" then some (0.0 / 0.0)
  else
    let (numeral, rest) := Numeral.split s
    if rest.isEmpty && !(numeral.whole.isEmpty && (numeral.fraction.getD []).isEmpty) then
      some (numeral.toFloat negative)
    else none

/-- The whole number that a text spells: an optional sign and digits. -/
def readInt? (text : String) : Option Int :=
  let (negative, digits) := Numeral.takeSign text.toList
  if digits.isEmpty || !digits.all Char.isDigit then none
  else
    let n : Int := digitsValue digits
    some (if negative then -n else n)

/-- The whole number that a text without a minus spells, if it fits a word. -/
def readCount? (text : String) : Option Nat :=
  if text.startsWith "-" then none
  else ((readInt? text).map Int.toNat).filter (· ≤ Whole.greatestCount)

end Promptbook.Decimal
