import RowQuery.Calendar.Date

/-!
# Dates with a time of day

A `DateTime` is a day, a second of that day and a fraction of that second in nanoseconds. It
carries no offset: where one is written, the time is moved to offset zero when it is read
(`DateTime.minusOffset?`). A leap second is the second before it with a fraction of a whole second
or more, so the fraction may reach two seconds.

Like days, times are ordered by an integer; a bare date takes part in that order as its midnight.
-/

namespace RowQuery.Calendar

/-- The number of seconds of a day, leap seconds aside. -/
def secondsPerDay : Nat := 86400

/-- The number of nanoseconds of a second. -/
def nanosPerSecond : Nat := 1000000000

/-- A time of a day of the calendar. -/
structure DateTime where
  date : Date
  second : Nat
  nano : Nat
  second_lt : second < secondsPerDay
  nano_lt : nano < 2 * nanosPerSecond
deriving DecidableEq

namespace DateTime

/-- The first moment of a day. -/
def midnight (d : Date) : DateTime :=
  ⟨d, 0, 0, by decide, by decide⟩

/-- The time with these parts, if there is one. Second 60 is the leap second, at the end of any
    minute. -/
def ofParts? (date : Date) (hour minute second nano : Nat) : Option DateTime :=
  let base := hour * 3600 + minute * 60
  let s := if second = 60 then base + 59 else base + second
  let n := if second = 60 then nano + nanosPerSecond else nano
  if hour < 24 && minute < 60 && second ≤ 60 && nano < nanosPerSecond then
    if h : s < secondsPerDay ∧ n < 2 * nanosPerSecond then some ⟨date, s, n, h.1, h.2⟩ else none
  else none

/-- The place of a time in the order of times. -/
def position (t : DateTime) : Int :=
  (t.date.position * secondsPerDay + t.second) * (2 * nanosPerSecond) + t.nano

/-- The same instant without its offset: what the clock at offset zero shows when a clock this
    many minutes ahead of it shows `t`. The offset is less than a day, so at most the day before
    or the day after is reached. -/
def minusOffset? (t : DateTime) (minutes : Int) : Option DateTime :=
  let s : Int := t.second - 60 * minutes
  let at? (d? : Option Date) (s : Int) : Option DateTime := do
    let d ← d?
    if h : s.toNat < secondsPerDay then some ⟨d, s.toNat, t.nano, h, t.nano_lt⟩ else none
  if s < 0 then at? t.date.pred? (s + secondsPerDay)
  else if s < secondsPerDay then at? (some t.date) s
  else at? t.date.succ? (s - secondsPerDay)

/-- Different times have different positions. -/
theorem position_inj {a b : DateTime} (h : a.position = b.position) : a = b := by
  have ha := a.second_lt
  have hb := b.second_lt
  have ha' := a.nano_lt
  have hb' := b.nano_lt
  have hd : a.date = b.date := by
    apply Date.position_inj
    simp only [position, secondsPerDay, nanosPerSecond] at *
    omega
  cases a
  cases b
  simp only [position, secondsPerDay, nanosPerSecond] at *
  subst hd
  simp only [DateTime.mk.injEq, true_and]
  omega

end DateTime

end RowQuery.Calendar
