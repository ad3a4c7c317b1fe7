/-!
# `FluentSql.Calendar` — dates and times of day

Dates of the proleptic Gregorian calendar with astronomical years, and date-times without a zone. A
date-time whose second is 60 is a leap second.

* `Date.dayNumber`, `Date.ofDayNumber` — days counted from 1970-01-01;
* `Date.text`, `DateTime.text` — the texts that are stored in a database;
* `ZonedTime.utc` — times in zones, brought to UTC.
-/

namespace FluentSql

/-- **A date.** -/
structure Date where
  year : Int
  month : Nat
  day : Nat
  deriving DecidableEq, Repr, Inhabited

/-- **A date and a time of day**, to the nanosecond; second 60 is a leap second. -/
structure DateTime where
  date : Date
  hour : Nat
  minute : Nat
  second : Nat
  nanosecond : Nat
  deriving DecidableEq, Repr, Inhabited

namespace Date

/-! ## The calendar -/

/-- Leap years. -/
def isLeapYear (year : Int) : Bool :=
  year % 4 == 0 && (year % 100 != 0 || year % 400 == 0)

/-- The number of days of a month. -/
def daysInMonth (year : Int) : Nat → Nat
  | 2 => if isLeapYear year then 29 else 28
  | 4 | 6 | 9 | 11 => 30
  | _ => 31

/-- The first and the last year that dates reach. -/
def firstYear : Int := -262143

/-- The last year that dates reach. -/
def lastYear : Int := 262142

/-- **Dates that exist**, within the years that dates reach. -/
def isValid (d : Date) : Bool :=
  firstYear ≤ d.year && d.year ≤ lastYear && 1 ≤ d.month && d.month ≤ 12 && 1 ≤ d.day
    && d.day ≤ daysInMonth d.year d.month

/-! ## Counting days -/

/-- **Days since 1970-01-01.** Years are counted from March, so that the leap day is the last of its
    year, and by eras of 400 years, which all have 146097 days. -/
def dayNumber (d : Date) : Int :=
  let year := if d.month ≤ 2 then d.year - 1 else d.year
  let era := year / 400
  let yearOfEra := year - era * 400
  let month : Int := if d.month ≤ 2 then d.month + 9 else d.month - 3
  let dayOfYear := (153 * month + 2) / 5 + d.day - 1
  let dayOfEra := yearOfEra * 365 + yearOfEra / 4 - yearOfEra / 100 + dayOfYear
  era * 146097 + dayOfEra - 719468

/-- **The date of a day number.** -/
def ofDayNumber (n : Int) : Date :=
  let shifted := n + 719468
  let era := shifted / 146097
  let dayOfEra := shifted - era * 146097
  let yearOfEra := (dayOfEra - dayOfEra / 1460 + dayOfEra / 36524 - dayOfEra / 146096) / 365
  let dayOfYear := dayOfEra - (365 * yearOfEra + yearOfEra / 4 - yearOfEra / 100)
  let month := (5 * dayOfYear + 2) / 153
  let day := dayOfYear - (153 * month + 2) / 5 + 1
  let month := if month < 10 then month + 3 else month - 9
  let year := yearOfEra + era * 400
  ⟨if month ≤ 2 then year + 1 else year, month.toNat, day.toNat⟩

/-! ## Text -/

/-- A number in at least `width` digits. -/
def padded (width n : Nat) : String :=
  let digits := Nat.toDigits 10 n
  String.ofList (List.replicate (width - digits.length) '0' ++ digits)

/-- Years of four digits stand alone, others carry a sign. -/
def yearText (year : Int) : String :=
  if 0 ≤ year && year ≤ 9999 then padded 4 year.toNat
  else (if year < 0 then "-" else "+") ++ padded 4 year.natAbs

/-- **The text of a date**, such as `2024-02-29`. -/
def text (d : Date) : String :=
  s!"{yearText d.year}-{padded 2 d.month}-{padded 2 d.day}"

end Date

namespace DateTime

/-- **The stored text of a date-time**, such as `2024-01-02 03:04:05`; the fraction is dropped. -/
def text (t : DateTime) : String :=
  s!"{t.date.text} {Date.padded 2 t.hour}:{Date.padded 2 t.minute}:{Date.padded 2 t.second}"

/-- The fraction of a second in the fewest of 3, 6 or 9 digits that are exact; none when zero. -/
def fractionText (nanosecond : Nat) : String :=
  if nanosecond == 0 then ""
  else if nanosecond % 1000000 == 0 then "." ++ Date.padded 3 (nanosecond / 1000000)
  else if nanosecond % 1000 == 0 then "." ++ Date.padded 6 (nanosecond / 1000)
  else "." ++ Date.padded 9 nanosecond

/-- The text of a date-time with its fraction. -/
def exactText (t : DateTime) : String :=
  t.text ++ fractionText t.nanosecond

/-- Seconds since 1970-01-01 00:00:00; a leap second counts as the next second. -/
def seconds (t : DateTime) : Int :=
  t.date.dayNumber * 86400 + t.hour * 3600 + t.minute * 60 + t.second

/-- The date-time of a number of seconds. -/
def ofSeconds (n : Int) : DateTime :=
  let rest := (n % 86400).toNat
  ⟨Date.ofDayNumber (n / 86400), rest / 3600, rest / 60 % 60, rest % 60, 0⟩

/-- The same instant `minutes` earlier on the clock: the seconds stay. -/
def minusMinutes (t : DateTime) (minutes : Int) : DateTime :=
  let total := t.date.dayNumber * 1440 + t.hour * 60 + t.minute - minutes
  let rest := (total % 1440).toNat
  { t with date := Date.ofDayNumber (total / 1440), hour := rest / 60, minute := rest % 60 }

end DateTime

/-- **A time in a zone.** -/
structure ZonedTime where
  /-- What the clocks of the zone show. -/
  shown : DateTime
  /-- By how many minutes they are ahead of UTC. -/
  ahead : Int
  deriving DecidableEq, Repr, Inhabited

/-- **The time on UTC clocks** at the same instant. -/
def ZonedTime.utc (t : ZonedTime) : DateTime := t.shown.minusMinutes t.ahead

end FluentSql
