import Promptbook.Data.Radix
import Promptbook.Data.Value
import Promptbook.Data.Whole
import Promptbook.Decimal.Reader

/-!
# Numbers of RON

A number is a run of certain characters. It is a whole number where it can be one, which may have a
base in front and a kind behind; all else is a double.
-/

namespace Promptbook.Ron

/-- A character that may stand in a number. -/
def isNumberChar (c : Char) : Bool :=
  c.isAlphanum || c == '.' || c == '+' || c == '-' || c == '_'

/-- The least and the greatest number of a kind of whole numbers. -/
def kindBounds? : String → Option (Int × Int)
  | "" => some (Whole.least, Whole.greatestCount)
  | "i8" => some (-0x80, 0x7F)
  | "i16" => some (-0x8000, 0x7FFF)
  | "i32" => some (-0x80000000, 0x7FFFFFFF)
  | "i64" => some (Whole.least, Whole.greatest)
  | "u8" => some (0, 0xFF)
  | "u16" => some (0, 0xFFFF)
  | "u32" => some (0, 0xFFFFFFFF)
  | "u64" => some (0, Whole.greatestCount)
  | _ => none

/-- The base that a whole number has in front, and the digits behind it. -/
def base : List Char → Nat × List Char
  | '0' :: 'x' :: s => (16, s)
  | '0' :: 'o' :: s => (8, s)
  | '0' :: 'b' :: s => (2, s)
  | s => (10, s)

/-- A character that may stand among the digits of a whole number. -/
def isDigitChar (c : Char) : Bool :=
  (Radix.digit? 16 c).isSome || c == '_'

/-- The whole number that a run stands for. -/
def int? (s : List Char) : Option Value := do
  let (negative, rest) := Decimal.Numeral.takeSign s
  let (base, rest) := base rest
  let digits := rest.takeWhile isDigitChar
  if digits.head? = some '_' then none
  let n : Int ← Radix.read? base (digits.filter (· != '_'))
  let n := if negative then -n else n
  let (least, greatest) ← kindBounds? (String.ofList (rest.dropWhile isDigitChar))
  if least ≤ n && n ≤ greatest then some (.int n) else none

/-- A number without its underscores. They may stand behind digits and the mark of an exponent;
`allowed` says whether one may stand next. -/
def joined? : (allowed : Bool) → List Char → Option (List Char)
  | _, [] => some []
  | allowed, c :: s =>
    if c = '_' then if allowed then joined? true s else none
    else
      let next := if c = '.' then false else allowed || c.isAlphanum
      (joined? next s).map (c :: ·)

/-- The double that a text spells; only digits, points, signs and exponents count. -/
def plainDouble? (s : List Char) : Option Float :=
  if s.all fun c =>
    c.isDigit || c == 'e' || c == 'E' || c == '.' || c == '+' || c == '-' || c == '_'
  then (joined? false s).bind fun s => Decimal.read? (String.ofList s)
  else none

/-- The double that a run stands for; the kind behind it may ask for single precision. -/
def double? (s : List Char) : Option Value :=
  match s with
  | ['-', 'i', 'n', 'f'] => some (.double (-(1.0 / 0.0)))
  | ['+', 'i', 'n', 'f'] => some (.double (1.0 / 0.0))
  | ['-', 'N', 'a', 'N'] | ['+', 'N', 'a', 'N'] => some (.double (0.0 / 0.0))
  | _ =>
    match s.reverse with
    | '2' :: '3' :: 'f' :: front =>
      (plainDouble? front.reverse).map fun x => .double x.toFloat32.toFloat
    | '4' :: '6' :: 'f' :: front => (plainDouble? front.reverse).map .double
    | _ => (plainDouble? s).map .double

/-- Read a number. -/
def number? (s : List Char) : Option (Value × List Char) :=
  let run := s.takeWhile isNumberChar
  ((int? run).or (double? run)).map fun v => (v, s.dropWhile isNumberChar)

end Promptbook.Ron
