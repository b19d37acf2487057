import RowQuery.Calendar.DateTime

/-!
# Days counted

The days of the calendar are counted here from the first of January of year one, which has number
one, without looking at any other day: from the year with its leap years, the lengths of the months
before, and the day of the month. The day after is found another way, by going on within the month,
or else to the next month, or else to the next year. The two agree: the day after has the next
number, and there is a day after wherever there is a day of that number.

* `daysBefore_succ`, `daysBeforeMonth_succ`: how many days a year and a month take;
* `Date.number_lt_number_iff`: days are counted in their order, so no two have one number;
* `Date.succ?_eq_some_iff`, `Date.pred?_eq_some_iff`: the day after and the day before.
-/

namespace RowQuery.Calendar

/-! ## Years and months -/

/-- The number of days from the first of January of year one to that of a year. -/
def daysBefore (year : Int) : Int :=
  365 * (year - 1) + (year - 1) / 4 - (year - 1) / 100 + (year - 1) / 400

/-- The number of days of a year in front of a month. -/
def daysBeforeMonth (year : Int) : Nat → Nat
  | 0 => 0
  | month + 1 => daysBeforeMonth year month + daysInMonth year month

/-- The number of days of a year. -/
def daysInYear (year : Int) : Nat :=
  if isLeapYear year then 366 else 365

variable {year : Int} {month : Nat}

theorem isLeapYear_iff : isLeapYear year = true ↔
    year % 4 = 0 ∧ (year % 100 ≠ 0 ∨ year % 400 = 0) := by
  simp [isLeapYear]

theorem daysBefore_succ (year : Int) : daysBefore (year + 1) = daysBefore year + daysInYear year := by
  unfold daysBefore daysInYear
  split
  · rename_i h
    rw [isLeapYear_iff] at h
    omega
  · rename_i h
    rw [isLeapYear_iff] at h
    omega

theorem daysBefore_le {later : Int} (h : year ≤ later) : daysBefore year ≤ daysBefore later := by
  unfold daysBefore
  omega

theorem daysBeforeMonth_succ (year : Int) (month : Nat) :
    daysBeforeMonth year (month + 1) = daysBeforeMonth year month + daysInMonth year month :=
  rfl

theorem daysBeforeMonth_le (year : Int) {later : Nat} (h : month ≤ later) :
    daysBeforeMonth year month ≤ daysBeforeMonth year later := by
  induction h with
  | refl => exact Nat.le_refl _
  | step _ ih =>
    rw [daysBeforeMonth_succ]
    omega

/-- The months make up the year. -/
theorem daysBeforeMonth_thirteen (year : Int) : daysBeforeMonth year 13 = daysInYear year := by
  simp only [daysBeforeMonth, daysInYear, daysInMonth]
  split <;> rfl

theorem daysInMonth_pos (h : 1 ≤ month ∧ month ≤ 12) : 0 < daysInMonth year month := by
  unfold daysInMonth
  split <;> grind

namespace Date

/-! ## The number of a day -/

/-- The number of a day, counted from the first of January of year one. -/
def number (d : Date) : Int :=
  daysBefore d.year + daysBeforeMonth d.year d.month + d.day

variable {a b d e : Date}

theorem daysBefore_lt_number (d : Date) : daysBefore d.year < d.number := by
  have hday := d.day_mem.1
  rw [number]
  omega

theorem number_le_daysBefore (d : Date) : d.number ≤ daysBefore (d.year + 1) := by
  have hday := d.day_mem.2
  have hmonth : daysBeforeMonth d.year (d.month + 1) ≤ daysBeforeMonth d.year 13 :=
    daysBeforeMonth_le d.year (Nat.succ_le_succ d.month_mem.2)
  rw [daysBeforeMonth_succ, daysBeforeMonth_thirteen] at hmonth
  rw [number, daysBefore_succ]
  omega

theorem number_lt_of_position_lt (h : a.position < b.position) : a.number < b.number := by
  have ha := a.month_mem
  have hb := b.month_mem
  have ha' := a.day_le
  have hb' := b.day_le
  simp only [position] at h
  by_cases hyear : a.year < b.year
  · calc a.number ≤ daysBefore (a.year + 1) := a.number_le_daysBefore
      _ ≤ daysBefore b.year := daysBefore_le hyear
      _ < b.number := b.daysBefore_lt_number
  have hyear : a.year = b.year := by omega
  rw [number, number, hyear]
  by_cases hmonth : a.month < b.month
  · have hfirst := b.day_mem.1
    have hlast := a.day_mem.2
    have hmonths := daysBeforeMonth_le b.year (Nat.succ_le_of_lt hmonth)
    rw [Nat.succ_eq_add_one, daysBeforeMonth_succ] at hmonths
    rw [hyear] at hlast
    omega
  · have hmonth : a.month = b.month := by omega
    rw [hmonth]
    omega

/-- Days are counted in their order. -/
theorem number_lt_number_iff : a.number < b.number ↔ a.position < b.position := by
  refine ⟨fun h => ?_, number_lt_of_position_lt⟩
  rcases Int.lt_trichotomy a.position b.position with hlt | heq | hgt
  · exact hlt
  · rw [position_inj heq] at h
    exact absurd h (Int.lt_irrefl _)
  · have := number_lt_of_position_lt hgt
    omega

/-- Different days have different numbers. -/
theorem number_inj (h : a.number = b.number) : a = b := by
  apply position_inj
  have hab := number_lt_number_iff (a := a) (b := b)
  have hba := number_lt_number_iff (a := b) (b := a)
  omega

/-! ## The days around -/

theorem ofParts?_eq_some {year : Int} {month day : Nat} : ofParts? year month day = some d ↔
    d.year = year ∧ d.month = month ∧ d.day = day := by
  constructor
  · intro h
    unfold ofParts? at h
    split at h
    · cases h
      exact ⟨rfl, rfl, rfl⟩
    · cases h
  · rintro ⟨rfl, rfl, rfl⟩
    exact ofParts?_self d

theorem ofParts?_eq_none {year : Int} {month day : Nat} : ofParts? year month day = none ↔
    ¬ ((firstYear ≤ year ∧ year ≤ lastYear) ∧ 1 ≤ day ∧ day ≤ daysInMonth year month) := by
  unfold ofParts?
  split
  · rename_i h
    exact iff_of_false (Option.some_ne_none _) fun h' => h' h
  · rename_i h
    exact iff_of_true rfl h

theorem number_of_succ? (h : d.succ? = some e) : e.number = d.number + 1 := by
  have hday := d.day_mem
  have hmonth := d.month_mem
  unfold succ? at h
  split at h
  · -- Within the month.
    obtain ⟨hy, hm, hd⟩ := ofParts?_eq_some.1 h
    rw [number, number, hy, hm, hd]
    omega
  split at h
  · -- From the end of a month to the next one.
    obtain ⟨hy, hm, hd⟩ := ofParts?_eq_some.1 h
    rw [number, number, hy, hm, hd, daysBeforeMonth_succ]
    omega
  · -- From the end of the year to the next one.
    obtain ⟨hy, hm, hd⟩ := ofParts?_eq_some.1 h
    have hlast : d.month = 12 := by omega
    have hyear := daysBeforeMonth_thirteen d.year
    rw [daysBeforeMonth_succ, ← hlast] at hyear
    have hfirst : daysBeforeMonth (d.year + 1) 1 = 0 := rfl
    rw [number, number, hy, hm, hd, hfirst, daysBefore_succ]
    omega

theorem number_of_pred? (h : d.pred? = some e) : e.number + 1 = d.number := by
  have hday := d.day_mem
  have hmonth := d.month_mem
  unfold pred? at h
  split at h
  · obtain ⟨hy, hm, hd⟩ := ofParts?_eq_some.1 h
    rw [number, number, hy, hm, hd]
    omega
  split at h
  · obtain ⟨hy, hm, hd⟩ := ofParts?_eq_some.1 h
    have hbefore := daysBeforeMonth_succ d.year (d.month - 1)
    rw [Nat.sub_add_cancel hmonth.1] at hbefore
    rw [number, number, hy, hm, hd, hbefore]
    omega
  · obtain ⟨hy, hm, hd⟩ := ofParts?_eq_some.1 h
    have hlast : d.month = 1 := by omega
    have hyear := daysBeforeMonth_thirteen (d.year - 1)
    have hthirtyOne : daysInMonth (d.year - 1) 12 = 31 := rfl
    rw [daysBeforeMonth_succ, hthirtyOne] at hyear
    have hfirst : daysBeforeMonth d.year 1 = 0 := rfl
    have hbefore := daysBefore_succ (d.year - 1)
    rw [Int.sub_add_cancel] at hbefore
    rw [number, number, hy, hm, hd, hlast, hfirst, hbefore]
    omega

/-- No day is behind the one that has no day after. -/
theorem number_le_of_succ?_eq_none (h : d.succ? = none) (e : Date) : e.number ≤ d.number := by
  have hday := d.day_mem
  have hmonth := d.month_mem
  have hyear := d.year_mem
  unfold succ? at h
  split at h
  · rename_i hwithin
    exact absurd ⟨hyear, Nat.le_add_left 1 _, hwithin⟩ (ofParts?_eq_none.1 h)
  split at h
  · exact absurd ⟨hyear, Nat.le_refl 1, daysInMonth_pos (by omega)⟩ (ofParts?_eq_none.1 h)
  · -- It is the last day of the last year.
    have hlast : ¬ d.year + 1 ≤ lastYear := fun hle =>
      ofParts?_eq_none.1 h ⟨⟨by omega, hle⟩, Nat.le_refl 1, daysInMonth_pos (by decide)⟩
    have hmonth : d.month = 12 := by omega
    have hthirtyOne : daysInMonth d.year 12 = 31 := rfl
    have hday : d.day = daysInMonth d.year d.month := by omega
    rw [hmonth, hthirtyOne] at hday
    have hemonth := e.month_mem
    have heday := e.day_le
    have heyear := e.year_mem
    refine Int.not_lt.1 fun hlt => ?_
    rw [number_lt_number_iff, position, position] at hlt
    omega

/-- No day is in front of the one that has no day before. -/
theorem le_number_of_pred?_eq_none (h : d.pred? = none) (e : Date) : d.number ≤ e.number := by
  have hday := d.day_mem
  have hmonth := d.month_mem
  have hyear := d.year_mem
  unfold pred? at h
  split at h
  · exact absurd ⟨hyear, by omega⟩ (ofParts?_eq_none.1 h)
  split at h
  · exact absurd ⟨hyear, daysInMonth_pos (by omega), Nat.le_refl _⟩ (ofParts?_eq_none.1 h)
  · -- It is the first day of the first year.
    have hfirst : ¬ firstYear ≤ d.year - 1 := fun hle =>
      ofParts?_eq_none.1 h ⟨⟨hle, by omega⟩, by decide, Nat.le_refl 31⟩
    have hemonth := e.month_mem
    have heday := e.day_mem
    have heyear := e.year_mem
    refine Int.not_lt.1 fun hlt => ?_
    rw [number_lt_number_iff, position, position] at hlt
    omega

/-- The day after is the day with the next number, if there is one. -/
theorem succ?_eq_some_iff : d.succ? = some e ↔ e.number = d.number + 1 := by
  refine ⟨number_of_succ?, fun h => ?_⟩
  cases hsucc : d.succ? with
  | none =>
    have := number_le_of_succ?_eq_none hsucc e
    omega
  | some x => rw [number_inj ((number_of_succ? hsucc).trans h.symm)]

/-- The day before is the day with the number before, if there is one. -/
theorem pred?_eq_some_iff : d.pred? = some e ↔ e.number = d.number - 1 := by
  refine ⟨fun h => by have := number_of_pred? h; omega, fun h => ?_⟩
  cases hpred : d.pred? with
  | none =>
    have := le_number_of_pred?_eq_none hpred e
    omega
  | some x =>
    have := number_of_pred? hpred
    rw [number_inj (a := x) (b := e) (by omega)]

/-- There is a day after all but the last year. -/
theorem exists_succ? (h : d.year < lastYear) : ∃ e, d.succ? = some e := by
  cases hsucc : d.succ? with
  | some e => exact ⟨e, rfl⟩
  | none =>
    let last : Date := ⟨lastYear, 12, 31, by decide, by decide⟩
    have hlast := number_le_of_succ?_eq_none hsucc last
    have hbefore : d.position < last.position := by
      have hmonth := d.month_mem
      have hday := d.day_le
      show (d.year * 16 + d.month) * 32 + d.day < (lastYear * 16 + 12) * 32 + 31
      omega
    have := number_lt_number_iff.2 hbefore
    omega

/-- There is a day before all but the first year. -/
theorem exists_pred? (h : firstYear < d.year) : ∃ e, d.pred? = some e := by
  cases hpred : d.pred? with
  | some e => exact ⟨e, rfl⟩
  | none =>
    let first : Date := ⟨firstYear, 1, 1, by decide, by decide⟩
    have hfirst := le_number_of_pred?_eq_none hpred first
    have hbehind : first.position < d.position := by
      have hmonth := d.month_mem
      have hday := d.day_mem.1
      show (firstYear * 16 + 1) * 32 + 1 < (d.year * 16 + d.month) * 32 + d.day
      omega
    have := number_lt_number_iff.2 hbehind
    omega

end Date

end RowQuery.Calendar
