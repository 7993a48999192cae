import Promptbook.Calendar.Moment
import Promptbook.Data.Radix
import Promptbook.Data.Value
import Promptbook.Data.Whole
import Promptbook.Decimal.Reader

/-!
# Numbers, Truth Values and Times of TOML

A scalar without quotes is a run of certain characters. Which kind of scalar it is and whether it is
a legal one is decided for the run as a whole. A time is kept as its text.
-/

namespace Promptbook.Toml

/-- A character that may stand in a scalar without quotes. -/
def isScalarChar (c : Char) : Bool :=
  c.isAlphanum || c == '+' || c == '-' || c == '_' || c == '.' || c == ':'

/-- Digits with single underscores between them, without the underscores. -/
def joinedDigits? (isDigit : Char → Bool) : List Char → Option (List Char)
  | [] => none
  | [c] => if isDigit c then some [c] else none
  | c :: '_' :: rest =>
    if isDigit c then (joinedDigits? isDigit rest).map (c :: ·) else none
  | c :: rest => if isDigit c then (joinedDigits? isDigit rest).map (c :: ·) else none

/-- The decimal digits of a whole number, without a superfluous zero in front. -/
def wholeDigits? (s : List Char) : Option (List Char) :=
  (joinedDigits? Char.isDigit s).filter fun digits => digits.length == 1 || digits.head? != some '0'

/-- A whole number that fits sixty-four bits with a sign. -/
def intValue? (n : Int) : Option Value :=
  if Whole.fits n then some (.int n) else none

/-- The whole number with digits to another base. -/
def basedInt? (base : Nat) (s : List Char) : Option Value :=
  (joinedDigits? (fun c => (Radix.digit? base c).isSome) s).bind fun digits =>
    (Radix.read? base digits).bind fun n => intValue? n

/-- The whole number that a run stands for. -/
def int? (s : List Char) : Option Value :=
  match s with
  | '0' :: 'x' :: rest => basedInt? 16 rest
  | '0' :: 'o' :: rest => basedInt? 8 rest
  | '0' :: 'b' :: rest => basedInt? 2 rest
  | _ =>
    let (negative, rest) := Decimal.Numeral.takeSign s
    (wholeDigits? rest).bind fun digits =>
      let n : Int := Decimal.digitsValue digits
      intValue? (if negative then -n else n)

/-- The exponent that a run stands for, with its sign. -/
def exponent? (s : List Char) : Option (Bool × List Char) :=
  let (negative, rest) := Decimal.Numeral.takeSign s
  (joinedDigits? Char.isDigit rest).map fun digits => (negative, digits)

/-- Whether a character begins an exponent. -/
def isExponentMark (c : Char) : Bool :=
  c == 'e' || c == 'E'

/-- The parts of a number with a fraction or an exponent. -/
def numeral? (s : List Char) : Option Decimal.Numeral := do
  let mantissa := s.takeWhile (!isExponentMark ·)
  let whole ← wholeDigits? (mantissa.takeWhile (· != '.'))
  let fraction ← match mantissa.dropWhile (· != '.') with
    | [] => some none
    | _ :: rest => (joinedDigits? Char.isDigit rest).map some
  let exponent ← match s.dropWhile (!isExponentMark ·) with
    | [] => some none
    | _ :: rest => (exponent? rest).map some
  if fraction.isNone && exponent.isNone then none else some ⟨whole, fraction, exponent⟩

/-- The number with a fraction or an exponent that a run stands for, or one of the special
numbers. -/
def double? (s : List Char) : Option Value :=
  let (negative, rest) := Decimal.Numeral.takeSign s
  if rest = ['i', 'n', 'f'] then some (.double (if negative then -(1.0 / 0.0) else 1.0 / 0.0))
  else if rest = ['n', 'a', 'n'] then some (.double (0.0 / 0.0))
  else (numeral? rest).bind fun numeral =>
    let x := numeral.toFloat negative
    if x.isFinite then some (.double x) else none

/-- A number with at least so many digits. -/
def padded (digits n : Nat) : List Char :=
  let text := (toString n).toList
  List.replicate (digits - text.length) '0' ++ text

/-- Read a date; it gives its text. -/
def date? (s : List Char) : Option (List Char × List Char) := do
  let (year, s) ← Calendar.Moment.digits? 4 s
  let (month, s) ← Calendar.Moment.digits? 2 (← Calendar.Moment.fixed? "-" s)
  let (day, s) ← Calendar.Moment.digits? 2 (← Calendar.Moment.fixed? "-" s)
  if 1 ≤ month && month ≤ 12 && 1 ≤ day && day ≤ Calendar.daysIn year month then
    some (padded 4 year ++ '-' :: padded 2 month ++ '-' :: padded 2 day, s)
  else none

/-- A fraction of a second: at most nine digits count, and of zeros at the end only one that stands
alone. -/
def fractionText (digits : List Char) : List Char :=
  match ((digits.take 9).reverse.dropWhile (· == '0')).reverse with
  | [] => ['.', '0']
  | kept => '.' :: kept

/-- Read the seconds behind the minutes, with their fraction; they may be left out. -/
def seconds? : List Char → Option (List Char × List Char)
  | ':' :: s => do
    let (second, s) ← Calendar.Moment.digits? 2 s
    if second > 60 then none
    let text := ':' :: padded 2 second
    match s with
    | '.' :: rest =>
      let digits := rest.takeWhile Char.isDigit
      if digits.isEmpty then none
      else some (text ++ fractionText digits, rest.dropWhile Char.isDigit)
    | rest => some (text, rest)
  | s => some ([], s)

/-- Read a time of day; it gives its text. -/
def time? (s : List Char) : Option (List Char × List Char) := do
  let (hour, s) ← Calendar.Moment.digits? 2 s
  let (minute, s) ← Calendar.Moment.digits? 2 (← Calendar.Moment.fixed? ":" s)
  if !(hour < 24 && minute < 60) then none
  let (seconds, s) ← seconds? s
  return (padded 2 hour ++ ':' :: padded 2 minute ++ seconds, s)

/-- The text of an offset at the end of a time; there may be none. -/
def offset? : List Char → Option (List Char)
  | [] => some []
  | ['z'] | ['Z'] => some ['Z']
  | sign :: s => do
    if !(sign == '+' || sign == '-') then none
    let (hours, s) ← Calendar.Moment.digits? 2 s
    let (minutes, s) ← Calendar.Moment.digits? 2 (← Calendar.Moment.fixed? ":" s)
    if !(s.isEmpty && hours < 24 && minutes < 60) then none
    let sign := if hours == 0 && minutes == 0 then '+' else sign
    return sign :: padded 2 hours ++ ':' :: padded 2 minutes

/-- The moment, date or time of day that a run stands for, as its text. -/
def moment? (s : List Char) : Option Value := do
  match date? s with
  | some (date, []) => return .string (String.ofList date)
  | some (date, mark :: rest) =>
    if !(mark == 'T' || mark == 't' || mark == ' ') then none
    let (time, rest) ← time? rest
    let offset ← offset? rest
    return .string (String.ofList (date ++ 'T' :: time ++ offset))
  | none =>
    match ← time? s with
    | (time, []) => return .string (String.ofList time)
    | _ => none

/-- The value that a run stands for. -/
def scalarValue? (s : List Char) : Option Value :=
  if s = "true".toList then some (.bool true)
  else if s = "false".toList then some (.bool false)
  else (int? s).or ((double? s).or (moment? s))

/-- The run of characters at the start of a text. A date and a time may have a blank between
them. -/
def run (s : List Char) : List Char × List Char :=
  let first := s.takeWhile isScalarChar
  match (date? first).map Prod.snd, s.dropWhile isScalarChar with
  | some [], ' ' :: c :: rest =>
    if c.isDigit then
      (first ++ ' ' :: (c :: rest).takeWhile isScalarChar, (c :: rest).dropWhile isScalarChar)
    else (first, ' ' :: c :: rest)
  | _, rest => (first, rest)

/-- Read a scalar without quotes. -/
def scalar? (s : List Char) : Option (Value × List Char) :=
  let (chars, rest) := run s
  (scalarValue? chars).map fun v => (v, rest)

end Promptbook.Toml
