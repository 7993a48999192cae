import Promptbook.Decimal.Reader

/-!
# Moments

A date with a time of day and the offset of its clock from universal time, and the spellings in
which such a moment is written out in full. A whole number spells the moment so many seconds after
the start of the year 1970.
-/

namespace Promptbook.Calendar

/-- A moment as a clock with a calendar shows it. -/
structure Moment where
  /-- The year; the one before the year 1 is the year 0. -/
  year : Int
  /-- The month, from 1. -/
  month : Nat
  /-- The day of the month, from 1. -/
  day : Nat
  /-- The hour, up to 23. -/
  hour : Nat
  /-- The minute. -/
  minute : Nat
  /-- The second. -/
  second : Nat
  /-- The billionths of a second behind it. -/
  fraction : Nat
  /-- How many minutes the clock is ahead of universal time. -/
  offset : Int
  deriving DecidableEq, Repr

/-- The names of the months. -/
def monthNames : List String :=
  ["January", "February", "March", "April", "May", "June", "July", "August", "September",
    "October", "November", "December"]

/-- The names of the days of the week, from Sunday. -/
def dayNames : List String :=
  ["Sunday", "Monday", "Tuesday", "Wednesday", "Thursday", "Friday", "Saturday"]

/-- The first three letters of a name. -/
def shortName (name : String) : String :=
  String.ofList (name.toList.take 3)

/-- Whether a year has a leap day. -/
def isLeap (year : Int) : Bool :=
  year % 4 == 0 && (year % 100 != 0 || year % 400 == 0)

/-- The number of days of a month. -/
def daysIn (year : Int) (month : Nat) : Nat :=
  match month with
  | 2 => if isLeap year then 29 else 28
  | 4 | 6 | 9 | 11 => 30
  | _ => 31

namespace Moment

/-- Whether the date exists and the time is one of the day. -/
def isValid (m : Moment) : Bool :=
  1 ≤ m.month && m.month ≤ 12 && 1 ≤ m.day && m.day ≤ daysIn m.year m.month
    && m.hour < 24 && m.minute < 60 && m.second < 60

/-- The day of the year, from 1. -/
def dayOfYear (m : Moment) : Nat :=
  (List.range (m.month - 1)).foldl (fun days i => days + daysIn m.year (i + 1)) 0 + m.day

/-- The number of days from the first of March of the year 0 to the date. -/
def dayNumber (m : Moment) : Int :=
  let year := if m.month ≤ 2 then m.year - 1 else m.year
  let month : Int := if m.month ≤ 2 then (m.month : Int) + 9 else (m.month : Int) - 3
  365 * year + year.fdiv 4 - year.fdiv 100 + year.fdiv 400 + (153 * month + 2) / 5 + m.day - 1

/-- The day of the week, from Sunday as 0. -/
def dayOfWeek (m : Moment) : Nat :=
  ((m.dayNumber + 3) % 7).toNat

/-- The number of the first day of the year 1970. -/
def epochDay : Int := 719468

/-- The number of seconds of a day. -/
def secondsPerDay : Int := 86400

/-- The seconds from the start of the year 1970 in universal time. -/
def unixTime (m : Moment) : Int :=
  (m.dayNumber - epochDay) * secondsPerDay + m.hour * 3600 + m.minute * 60 + m.second
    - m.offset * 60

/-- The year, month and day of a day that is counted from the first of March of the year 0. Every
400 years have the same number of days, and so have, from March on, every five months. -/
def ofDayNumber (number : Int) : Int × Nat × Nat :=
  let day := (number.fmod 146097).toNat
  let years := (day - day / 1460 + day / 36524 - day / 146096) / 365
  let day := day - (365 * years + years / 4 - years / 100)
  let month := (5 * day + 2) / 153
  let year := 400 * number.fdiv 146097 + years
  let dayOfMonth := day - (153 * month + 2) / 5 + 1
  if month < 10 then (year, month + 3, dayOfMonth) else (year + 1, month - 9, dayOfMonth)

/-- The moment so many seconds after the start of the year 1970, in universal time, if its year
has at most four digits. -/
def ofUnixTime? (seconds : Int) : Option Moment :=
  let rest := (seconds.fmod secondsPerDay).toNat
  let (year, month, day) := ofDayNumber (seconds.fdiv secondsPerDay + epochDay)
  if year.natAbs < 10000 then
    some ⟨year, month, day, rest / 3600, rest / 60 % 60, rest % 60, 0, 0⟩
  else none

/-- Read exactly `count` digits. -/
def digits? (count : Nat) (s : List Char) : Option (Nat × List Char) :=
  if (s.take count).length == count && (s.take count).all Char.isDigit then
    some (Decimal.digitsValue (s.take count), s.drop count)
  else none

/-- Read a fixed text. -/
def fixed? (text : String) (s : List Char) : Option (List Char) :=
  if text.toList.isPrefixOf s then some (s.drop text.length) else none

/-- Read one of some names, as its position from 1. -/
def name? (names : List String) (s : List Char) : Option (Nat × List Char) :=
  (names.zipIdx 1).findSome? fun (name, i) => (fixed? name s).map fun rest => (i, rest)

/-- A time of day. -/
structure TimeOfDay where
  /-- The hour. -/
  hour : Nat
  /-- The minute. -/
  minute : Nat
  /-- The second. -/
  second : Nat

/-- Read a time of day. -/
def time? (s : List Char) : Option (TimeOfDay × List Char) := do
  let (hour, s) ← digits? 2 s
  let (minute, s) ← digits? 2 (← fixed? ":" s)
  let (second, s) ← digits? 2 (← fixed? ":" s)
  return (⟨hour, minute, second⟩, s)

/-- Read a year: four digits, which may have a sign before them. -/
def year? (s : List Char) : Option (Int × List Char) :=
  let (negative, s) := Decimal.Numeral.takeSign s
  (digits? 4 s).map fun (year, rest) => (if negative then -year else year, rest)

/-- Read the number of a day with one or two digits. -/
def shortDay? (s : List Char) : Option (Nat × List Char) :=
  let digits := (s.take 2).takeWhile Char.isDigit
  if digits.isEmpty then none else some (Decimal.digitsValue digits, s.drop digits.length)

/-- Read the fraction of a second, if there is one: a point and digits, of which nine count. -/
def fraction? (s : List Char) : Option (Nat × List Char) :=
  match s with
  | '.' :: s =>
    let digits := (s.takeWhile Char.isDigit).take 9
    if digits.isEmpty then none
    else some (Decimal.digitsValue (digits ++ List.replicate (9 - digits.length) '0'),
      s.dropWhile Char.isDigit)
  | _ => some (0, s)

/-- Read a sign and four digits as an offset. -/
def offset? : List Char → Option Int
  | sign :: s => do
    let (hours, s) ← digits? 2 s
    let (minutes, rest) ← digits? 2 s
    if !rest.isEmpty || 60 ≤ minutes then none
    else if sign == '+' then some (60 * hours + minutes)
    else if sign == '-' then some (-(60 * hours + minutes))
    else none
  | [] => none

/-- Whether a text ends with an offset below twenty hours. -/
def endsWithOffset (s : List Char) : Bool :=
  match s.reverse with
  | a :: b :: c :: d :: sign :: _ =>
    a.isDigit && b.isDigit && c.isDigit && (d == '0' || d == '1') && (sign == '+' || sign == '-')
  | _ => false

/-- Finish a moment whose date has been read: a time, and an offset behind a space. -/
def afterDate? (year : Int) (month day : Nat) (s : List Char) : Option Moment := do
  let (time, s) ← time? (← fixed? " " s)
  let offset ← offset? (← fixed? " " s)
  return ⟨year, month, day, time.hour, time.minute, time.second, 0, offset⟩

/-- `2024-02-29 13:45:06 +0000`, also with a fraction of a second. -/
def yearFirst? (s : List Char) : Option Moment := do
  let (year, s) ← year? s
  let (month, s) ← digits? 2 (← fixed? "-" s)
  let (day, s) ← digits? 2 (← fixed? "-" s)
  let (time, s) ← time? (← fixed? " " s)
  let (fraction, s) ← fraction? s
  let offset ← offset? (← fixed? " " s)
  return ⟨year, month, day, time.hour, time.minute, time.second, fraction, offset⟩

/-- `29 February 2024 13:45:06 +0000`, with one of the given names of months. -/
def dayFirst? (names : List String) (s : List Char) : Option Moment := do
  let (day, s) ← digits? 2 s
  let (month, s) ← name? names (← fixed? " " s)
  let (year, s) ← year? (← fixed? " " s)
  afterDate? year month day s

/-- `02/29/2024 13:45:06 +0000` -/
def monthFirst? (s : List Char) : Option Moment := do
  let (month, s) ← digits? 2 s
  let (day, s) ← digits? 2 (← fixed? "/" s)
  let (year, s) ← year? (← fixed? "/" s)
  afterDate? year month day s

/-- `Thu Feb 29 13:45:06 2024 +0000`, the day with one digit or two; the day of the week need not be
the right one. -/
def weekdayFirst? (s : List Char) : Option Moment := do
  let (_, s) ← name? (dayNames.map shortName) s
  let (month, s) ← name? (monthNames.map shortName) (← fixed? " " s)
  let (day, s) ← shortDay? (← fixed? " " s)
  let (time, s) ← time? (← fixed? " " s)
  let (year, s) ← year? (← fixed? " " s)
  let offset ← offset? (← fixed? " " s)
  return ⟨year, month, day, time.hour, time.minute, time.second, 0, offset⟩

/-- The moment that a text spells out. Without an offset the clock shows universal time. -/
def spelledOut? (text : String) : Option Moment :=
  let s := if endsWithOffset text.toList then text.toList else text.toList ++ " +0000".toList
  ([yearFirst?, dayFirst? monthNames, dayFirst? (monthNames.map shortName), monthFirst?,
    weekdayFirst?].findSome? fun form => form s).filter isValid

/-- The moment that a text spells out, or whose time it is if it is a whole number. -/
def read? (text : String) : Option Moment :=
  match (Decimal.readInt? text).filter Whole.fits with
  | some seconds => ofUnixTime? seconds
  | none => spelledOut? text

end Moment

end Promptbook.Calendar
