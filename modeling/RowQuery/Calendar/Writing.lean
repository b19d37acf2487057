import RowQuery.Calendar.DateTime
import RowQuery.Decimal.Digits

/-!
# Dates and times as text

One form is written everywhere: `year-month-day`, and for a time `T`, `hour:minute:second` and, if
there is a fraction, a point and as many groups of three digits as it needs. Years outside 0 to
9999 carry their sign; every year has at least four digits.
-/

namespace RowQuery.Calendar

open Decimal (padded)

/-- A year, with its sign outside 0 to 9999. -/
def yearText (year : Int) : List Char :=
  let digits := padded 4 year.natAbs
  if year < 0 then '-' :: digits else if 9999 < year then '+' :: digits else digits

/-- A day as `year-month-day`. -/
def Date.text (d : Date) : List Char :=
  yearText d.year ++ '-' :: padded 2 d.month ++ '-' :: padded 2 d.day

/-- A fraction of a second: nothing, or a point and three, six or nine digits. -/
def fractionText (nano : Nat) : List Char :=
  if nano = 0 then []
  else if nano % 1000000 = 0 then '.' :: padded 3 (nano / 1000000)
  else if nano % 1000 = 0 then '.' :: padded 6 (nano / 1000)
  else '.' :: padded 9 nano

/-- A time of day as `hour:minute:second` with its fraction. A leap second shows as second 60. -/
def clockText (second nano : Nat) : List Char :=
  padded 2 (second / 3600) ++ ':' :: padded 2 (second / 60 % 60) ++
    ':' :: padded 2 (second % 60 + nano / nanosPerSecond) ++ fractionText (nano % nanosPerSecond)

/-- A day and a time of day, with `T` between them. -/
def DateTime.text (t : DateTime) : List Char :=
  t.date.text ++ 'T' :: clockText t.second t.nano

end RowQuery.Calendar
