import FluentSql.Calendar
/-!
# `FluentSql.Postgres.Epoch` — dates and times counted from the year 2000

The server counts days and microseconds from 2000-01-01.
-/

namespace FluentSql.Postgres.Epoch

/-- The day number of 2000-01-01. -/
def firstDay : Int := (⟨2000, 1, 1⟩ : Date).dayNumber

/-- The days from the epoch to a date. -/
def days (d : Date) : Int := d.dayNumber - firstDay

/-- **The date of a number of days**, if dates reach it. -/
def date? (n : Int) : Option Date :=
  let d := Date.ofDayNumber (n + firstDay)
  if d.isValid then some d else none

/-- The microseconds from the epoch to a date-time; a leap second counts as the next second. -/
def microseconds (t : DateTime) : Int :=
  (t.seconds - firstDay * 86400) * 1000000 + t.nanosecond / 1000

/-- **The date-time of a number of microseconds**, in whole seconds towards the past, if dates reach
    it. -/
def dateTime? (n : Int) : Option DateTime :=
  let t := DateTime.ofSeconds (n / 1000000 + firstDay * 86400)
  if t.date.isValid then some t else none

end FluentSql.Postgres.Epoch
