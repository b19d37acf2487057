/-!
# Dates

Days of the proleptic Gregorian calendar, with a year zero and negative years before it. A `Date`
is always a real day: its month and its day are in range, and its year lies within the 262 144
years on either side that the calendar covers. Days are ordered by one integer, `Date.position`,
which grows with the year, then the month, then the day.

* `Date.position_inj`: two days at the same position are the same day.
-/

namespace RowQuery.Calendar

/-- Whether a year has a 29th of February. -/
def isLeapYear (year : Int) : Bool :=
  year % 4 = 0 && (year % 100 ≠ 0 || year % 400 = 0)

/-- The number of days of a month, and none for a number that is no month. -/
def daysInMonth (year : Int) : Nat → Nat
  | 1 | 3 | 5 | 7 | 8 | 10 | 12 => 31
  | 4 | 6 | 9 | 11 => 30
  | 2 => if isLeapYear year then 29 else 28
  | _ => 0

theorem daysInMonth_le (year : Int) (month : Nat) : daysInMonth year month ≤ 31 := by
  unfold daysInMonth
  split <;> (try split) <;> omega

theorem month_le_of_daysInMonth_pos {year : Int} {month : Nat} (h : 0 < daysInMonth year month) :
    1 ≤ month ∧ month ≤ 12 := by
  unfold daysInMonth at h
  split at h <;> omega

/-- The first year of the calendar. -/
def firstYear : Int := -262143

/-- The last year of the calendar. -/
def lastYear : Int := 262142

/-- A day of the calendar. -/
structure Date where
  year : Int
  month : Nat
  day : Nat
  year_mem : firstYear ≤ year ∧ year ≤ lastYear
  day_mem : 1 ≤ day ∧ day ≤ daysInMonth year month
deriving DecidableEq

namespace Date

/-- The day with these parts, if there is one. -/
def ofParts? (year : Int) (month day : Nat) : Option Date :=
  if h : (firstYear ≤ year ∧ year ≤ lastYear) ∧ 1 ≤ day ∧ day ≤ daysInMonth year month then
    some ⟨year, month, day, h.1, h.2⟩
  else none

/-- The place of a day in the order of days. -/
def position (d : Date) : Int :=
  (d.year * 16 + d.month) * 32 + d.day

/-- The day after, unless this is the last day of the calendar. -/
def succ? (d : Date) : Option Date :=
  if d.day < daysInMonth d.year d.month then ofParts? d.year d.month (d.day + 1)
  else if d.month < 12 then ofParts? d.year (d.month + 1) 1
  else ofParts? (d.year + 1) 1 1

/-- The day before, unless this is the first day of the calendar. -/
def pred? (d : Date) : Option Date :=
  if 1 < d.day then ofParts? d.year d.month (d.day - 1)
  else if 1 < d.month then ofParts? d.year (d.month - 1) (daysInMonth d.year (d.month - 1))
  else ofParts? (d.year - 1) 12 31

theorem month_mem (d : Date) : 1 ≤ d.month ∧ d.month ≤ 12 :=
  month_le_of_daysInMonth_pos (Nat.lt_of_lt_of_le d.day_mem.1 d.day_mem.2)

theorem day_le (d : Date) : d.day ≤ 31 :=
  Nat.le_trans d.day_mem.2 (daysInMonth_le _ _)

/-- Different days have different positions. -/
theorem position_inj {a b : Date} (h : a.position = b.position) : a = b := by
  have ha := a.month_mem
  have hb := b.month_mem
  have ha' := a.day_le
  have hb' := b.day_le
  cases a
  cases b
  simp only [position] at *
  simp only [Date.mk.injEq]
  omega

@[simp] theorem ofParts?_self (d : Date) : ofParts? d.year d.month d.day = some d :=
  dif_pos ⟨d.year_mem, d.day_mem⟩

end Date

end RowQuery.Calendar
