import Promptbook.Calendar.Moment
import Promptbook.Data.Whole
import Promptbook.Text.LetterCase

/-!
# Patterns for Moments

A pattern is a text in which a percent sign and a letter stand for a part of a moment. Between them
may stand flags, which change how the part is filled up or capitalized, a width, one of the letters
`E` and `O`, which mean nothing, and before the letter `z` up to two colons. What has this form but
an unknown letter stands for itself; a pattern that breaks off inside of it cannot be written.
-/

namespace Promptbook.Calendar

/-- What stands between a percent sign and a letter. -/
structure Style where
  /-- The character that is asked for to fill up on the left. -/
  filler : Option Char
  /-- Whether nothing is filled up. -/
  unfilled : Bool
  /-- Whether letters become capitals. -/
  upper : Bool
  /-- The width that is asked for. -/
  width : Option Nat
  /-- The number of colons. -/
  colons : Nat

namespace Style

/-- The style of a letter right behind the percent sign. -/
def plain : Style := ⟨none, false, false, none, 0⟩

/-- Fill up a text on the left. -/
def fill (c : Char) (width : Nat) (s : String) : String :=
  String.ofList (List.replicate (width - s.length) c) ++ s

/-- A number in a style, with the filler and the number of digits that it has by itself. Zeros are
filled in behind the sign, which counts if the width is asked for. -/
def number (style : Style) (filler : Char) (digits : Nat) (n : Int) : String :=
  let sign := if n < 0 then "-" else ""
  let width := style.width.getD (digits + sign.length)
  if style.unfilled then sign ++ toString n.natAbs
  else if style.filler.getD filler == '0' then
    sign ++ fill '0' (width - sign.length) (toString n.natAbs)
  else fill ' ' width (sign ++ toString n.natAbs)

/-- A text in a style. -/
def text (style : Style) (s : String) : String :=
  let s := if style.upper then Text.uppercase s else s
  if style.unfilled then s else fill (style.filler.getD ' ') (style.width.getD 0) s

/-- The digits of a fraction of a second in a style, with the number of digits that it has by
itself. Zeros are filled in behind the billionths, tenths or whatever is asked for. -/
def fraction (style : Style) (digits : Nat) (billionths : Nat) : String :=
  let width := style.width.getD digits
  let shown := toString (billionths / Nat.pow 10 (9 - width))
  shown ++ String.ofList (List.replicate (width - shown.length) '0')

/-- An offset in minutes as hours, minutes and, with two colons, seconds. The hours take up the
width that the other parts leave. Behind blanks their sign is lost if they are none. -/
def offset (style : Style) (colons : Nat) (minutes : Int) : String :=
  let separator := if colons = 0 then "" else ":"
  let rest := separator ++ fill '0' 2 (toString (minutes.natAbs % 60))
    ++ (if colons = 2 then ":00" else "")
  let hours := minutes.natAbs / 60
  let width := max 2 ((style.width.getD 0) - (rest.length + 1))
  if style.filler == some ' ' then
    fill ' ' width ((if minutes < 0 && hours != 0 then "-" else "+") ++ toString hours) ++ rest
  else (if minutes < 0 then "-" else "+") ++ fill '0' width (toString hours) ++ rest

end Style

/-- The hour on a clock with twelve hours. -/
def clockHour (hour : Nat) : Nat :=
  if hour % 12 == 0 then 12 else hour % 12

/-- The number of weeks of a year that have begun, when weeks begin on the day of the week
`start`. -/
def weekFrom (m : Moment) (start : Nat) : Nat :=
  (m.dayOfYear + 6 - (m.dayOfWeek + 7 - start) % 7) / 7

/-- The year to which the week of a moment belongs, and the number of this week in it, when weeks
begin on Mondays and the first week of a year is the one with its first Thursday. -/
def weekOfYear (m : Moment) : Int × Nat :=
  let fromMonday := (m.dayOfWeek + 6) % 7
  let daysOf (year : Int) : Nat := if isLeap year then 366 else 365
  let week := (m.dayOfYear + 9 - fromMonday) / 7
  if week = 0 then (m.year - 1, (m.dayOfYear + daysOf (m.year - 1) + 9 - fromMonday) / 7)
  else if daysOf m.year + fromMonday < m.dayOfYear + 3 then (m.year + 1, 1)
  else (m.year, week)

/-- The part of a moment that a letter stands for. -/
def part? (m : Moment) (style : Style) : Char → Option String
  | 'Y' => some (style.number '0' 4 m.year)
  | 'C' => some (style.number '0' 2 (m.year.tdiv 100))
  | 'y' => some (style.number '0' 2 (m.year.tmod 100))
  | 'm' => some (style.number '0' 2 m.month)
  | 'B' => some (style.text ((monthNames[m.month - 1]?).getD ""))
  | 'b' | 'h' => some (style.text (shortName ((monthNames[m.month - 1]?).getD "")))
  | 'd' => some (style.number '0' 2 m.day)
  | 'e' => some (style.number ' ' 2 m.day)
  | 'j' => some (style.number '0' 3 m.dayOfYear)
  | 'H' => some (style.number '0' 2 m.hour)
  | 'k' => some (style.number ' ' 2 m.hour)
  | 'I' => some (style.number '0' 2 (clockHour m.hour))
  | 'l' => some (style.number ' ' 2 (clockHour m.hour))
  | 'p' => some (style.text (if m.hour < 12 then "AM" else "PM"))
  | 'P' => some (style.text (if m.hour < 12 then "am" else "pm"))
  | 'M' => some (style.number '0' 2 m.minute)
  | 'S' => some (style.number '0' 2 m.second)
  | 'L' => some (style.fraction 3 m.fraction)
  | 'N' => some (style.fraction 9 m.fraction)
  | 'z' => if style.colons ≤ 2 then some (style.offset style.colons m.offset) else none
  | 'Z' => some (style.text (Style.plain.offset 1 m.offset))
  | 'A' => some (style.text ((dayNames[m.dayOfWeek]?).getD ""))
  | 'a' => some (style.text (shortName ((dayNames[m.dayOfWeek]?).getD "")))
  | 'u' => some (style.number '0' 1 (if m.dayOfWeek == 0 then 7 else m.dayOfWeek))
  | 'w' => some (style.number '0' 1 m.dayOfWeek)
  | 'U' => some (style.number '0' 2 (weekFrom m 0))
  | 'W' => some (style.number '0' 2 (weekFrom m 1))
  | 'G' => some (style.number '0' 4 (weekOfYear m).1)
  | 'g' => some (style.number '0' 2 ((weekOfYear m).1.tmod 100))
  | 'V' => some (style.number '0' 2 (weekOfYear m).2)
  | 's' => some (style.number '0' 1 m.unixTime)
  | 'n' => some (style.text "\n")
  | 't' => some (style.text "\t")
  | '%' => some (style.text "%")
  | _ => none

/-- The pattern that a letter abbreviates. -/
def abbreviated? : Char → Option String
  | 'c' => some "%a %b %e %H:%M:%S %Y"
  | 'D' | 'x' => some "%m/%d/%y"
  | 'F' => some "%4Y-%m-%d"
  | 'v' => some "%e-%^b-%4Y"
  | 'X' | 'T' => some "%H:%M:%S"
  | 'r' => some "%I:%M:%S %p"
  | 'R' => some "%H:%M"
  | _ => none

/-- Read the flags behind a percent sign. -/
def readFlags (style : Style) : List Char → Style × List Char
  | '-' :: s => readFlags { style with unfilled := true } s
  | '0' :: s => readFlags { style with filler := some '0' } s
  | '_' :: s => readFlags { style with filler := some ' ' } s
  | '^' :: s => readFlags { style with upper := true } s
  | '#' :: s => readFlags { style with upper := true } s
  | s => (style, s)

/-- Read the width behind the flags. -/
def readWidth (style : Style) (s : List Char) : Style × List Char :=
  let digits := s.takeWhile Char.isDigit
  if digits.isEmpty then (style, s)
  else ({ style with width := some (Decimal.digitsValue digits) }, s.drop digits.length)

/-- The text behind a letter that means nothing. -/
def skipModifier : List Char → List Char
  | 'E' :: s => s
  | 'O' :: s => s
  | s => s

/-- Read what stands between a percent sign and a letter. -/
def readStyle (s : List Char) : Style × List Char :=
  let (style, s) := readFlags .plain s
  let (style, s) := readWidth style s
  let s := skipModifier s
  ({ style with colons := (s.takeWhile (· == ':')).length }, s.dropWhile (· == ':'))

/-- Whether a letter may follow the colons of a style: only an offset has colons. -/
def Style.admits (style : Style) (c : Char) : Bool :=
  c == 'z' || style.colons = 0

/-- Write a moment after a pattern, if the pattern does not break off. The fuel bounds the number of
characters that are read; `depth` says how often a letter may still stand for a pattern. -/
def writeWith? (m : Moment) : (depth fuel : Nat) → List Char → Option String
  | _, 0, _ => some ""
  | _, _ + 1, [] => some ""
  | depth, fuel + 1, '%' :: s =>
    match readStyle s with
    | (_, []) => none
    | (style, c :: rest) =>
      -- A width that no word can hold is as bad as a missing letter.
      if (style.width.getD 0) < Whole.words then do
        let written := String.ofList ('%' :: s.take (s.length - rest.length))
        let shown ← match depth, abbreviated? c with
          | depth + 1, some pattern =>
            if style.admits c then
              (writeWith? m depth pattern.length pattern.toList).map style.text
            else some written
          | _, _ => some (if style.admits c then (part? m style c).getD written else written)
        return shown ++ (← writeWith? m depth fuel rest)
      else none
  | depth, fuel + 1, c :: s => (writeWith? m depth fuel s).map (String.singleton c ++ ·)
termination_by depth fuel => (depth, fuel)

/-- Write a moment after a pattern, if the pattern does not break off. -/
def Moment.write? (m : Moment) (pattern : String) : Option String :=
  writeWith? m 1 pattern.length pattern.toList

end Promptbook.Calendar
