import Mathlib.Logic.ExistsUnique
import RowQuery.Proofs.Calendar.Counting

/-!
# Instants

Instants are counted in seconds, over all days of the calendar, so that a clock ahead by some
minutes shows what is that much later in the count, whatever months, years and leap days lie in
between. The fraction of the second is the same all over the world. Moving a time to offset zero,
which goes on to the day before or the day after where it has to, undoes exactly this.

* `DateTime.Ahead`: what a clock shows that is ahead;
* `DateTime.minusOffset?_eq_some_iff`: which time is moved to which;
* `DateTime.existsUnique_ahead`: a clock that is ahead shows one time.
-/

namespace RowQuery.Calendar.DateTime

variable {t u d : DateTime} {minutes : Int} {d? : Option Date} {s : Int}

/-- The seconds from a fixed day on, leap seconds aside. -/
def clock (t : DateTime) : Int :=
  t.date.number * secondsPerDay + t.second

/-- The time `t` is what a clock shows that is some minutes ahead of one that shows `d`. -/
structure Ahead (d : DateTime) (minutes : Int) (t : DateTime) : Prop where
  clock : t.clock = d.clock + 60 * minutes
  nano : t.nano = d.nano

theorem ext_parts (hdate : t.date = u.date) (hsecond : t.second = u.second)
    (hnano : t.nano = u.nano) : t = u := by
  obtain ⟨_, _, _, _, _⟩ := t
  obtain ⟨_, _, _, _, _⟩ := u
  cases hdate
  cases hsecond
  cases hnano
  rfl

/-- A time is known by its seconds and its fraction. -/
theorem eq_of_clock (h : t.clock = u.clock) (hnano : t.nano = u.nano) : t = u := by
  have ht := t.second_lt
  have hu := u.second_lt
  simp only [clock, secondsPerDay] at h ht hu
  have hnumber : t.date.number = u.date.number := by omega
  exact ext_parts (Date.number_inj hnumber) (by omega) hnano

/-! ## Moving a time -/

/-- A second of a day that may not be there, with the fraction of a time. -/
def onDay? (t : DateTime) (d? : Option Date) (s : Int) : Option DateTime := do
  let d ← d?
  if h : s.toNat < secondsPerDay then some ⟨d, s.toNat, t.nano, h, t.nano_lt⟩ else none

theorem onDay?_eq_some_iff : t.onDay? d? s = some u ↔
    d? = some u.date ∧ u.second = s.toNat ∧ u.nano = t.nano := by
  cases d? with
  | none => exact iff_of_false nofun nofun
  | some day =>
    simp only [onDay?, Option.bind_eq_bind, Option.bind_some, Option.some.injEq]
    constructor
    · intro h
      split at h
      · cases h
        exact ⟨rfl, rfl, rfl⟩
      · cases h
    · rintro ⟨hdate, hsecond, hnano⟩
      rw [dif_pos (hsecond ▸ u.second_lt)]
      exact congrArg some (ext_parts hdate hsecond.symm hnano.symm)

theorem exists_onDay? (hd : ∃ d, d? = some d) (hs : s.toNat < secondsPerDay) :
    ∃ u, t.onDay? d? s = some u := by
  obtain ⟨d, rfl⟩ := hd
  exact ⟨⟨d, s.toNat, t.nano, hs, t.nano_lt⟩, onDay?_eq_some_iff.2 ⟨rfl, rfl, rfl⟩⟩

theorem minusOffset?_eq (t : DateTime) (minutes : Int) : t.minusOffset? minutes =
    if t.second - 60 * minutes < 0 then
      t.onDay? t.date.pred? (t.second - 60 * minutes + secondsPerDay)
    else if t.second - 60 * minutes < secondsPerDay then
      t.onDay? (some t.date) (t.second - 60 * minutes)
    else t.onDay? t.date.succ? (t.second - 60 * minutes - secondsPerDay) :=
  rfl

/-- Moving a time to offset zero gives the instant at which a clock with the offset shows it. -/
theorem minusOffset?_eq_some_iff (hminutes : minutes.natAbs < 24 * 60) :
    t.minusOffset? minutes = some d ↔ d.Ahead minutes t := by
  have hday : (secondsPerDay : Int) = 86400 := rfl
  have ht := t.second_lt
  have hd := d.second_lt
  have hiff : d.Ahead minutes t ↔ t.clock = d.clock + 60 * minutes ∧ t.nano = d.nano :=
    ⟨fun h => ⟨h.clock, h.nano⟩, fun h => ⟨h.1, h.2⟩⟩
  rw [minusOffset?_eq, hiff, clock, clock, hday]
  split
  · rw [onDay?_eq_some_iff, Date.pred?_eq_some_iff]
    omega
  split
  · rw [onDay?_eq_some_iff, Option.some.injEq]
    constructor
    · rintro ⟨hdate, hsecond, hnano⟩
      rw [hdate]
      omega
    · rintro ⟨hclock, hnano⟩
      have hnumber : t.date.number = d.date.number := by omega
      exact ⟨Date.number_inj hnumber, by omega, hnano.symm⟩
  · rw [onDay?_eq_some_iff, Date.succ?_eq_some_iff]
    omega

/-- Away from the ends of the calendar every time can be moved by less than a day. -/
theorem exists_minusOffset? (hminutes : minutes.natAbs < 24 * 60)
    (hyear : firstYear < t.date.year ∧ t.date.year < lastYear) :
    ∃ u, t.minusOffset? minutes = some u := by
  have hday : (secondsPerDay : Int) = 86400 := rfl
  have ht := t.second_lt
  rw [minusOffset?_eq]
  split
  · exact exists_onDay? (Date.exists_pred? hyear.1) (by omega)
  split
  · exact exists_onDay? ⟨_, rfl⟩ (by omega)
  · exact exists_onDay? (Date.exists_succ? hyear.2) (by omega)

/-- A clock that is ahead or behind by less than a day shows exactly one time. -/
theorem existsUnique_ahead (hminutes : minutes.natAbs < 24 * 60)
    (hyear : firstYear < d.date.year ∧ d.date.year < lastYear) : ∃! t, d.Ahead minutes t := by
  have hback : (-minutes).natAbs < 24 * 60 := by omega
  obtain ⟨t, ht⟩ := exists_minusOffset? hback hyear
  obtain ⟨hclock, hnano⟩ := (minusOffset?_eq_some_iff hback).1 ht
  refine ⟨t, ⟨by omega, hnano.symm⟩, fun u hu => ?_⟩
  have hu' := hu.clock
  exact eq_of_clock (by omega) (hu.nano.trans hnano)

end RowQuery.Calendar.DateTime
