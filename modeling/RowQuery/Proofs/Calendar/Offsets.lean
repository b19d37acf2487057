import RowQuery.Proofs.Calendar
import RowQuery.Value.Reading

/-!
# Times with an offset

A time that is written with an offset is the instant at which a clock with this offset shows it.
Such a text is read by the strict manner, which takes the time off the front, then the offset, and
moves the time to offset zero. An offset is a sign, hours and minutes; `Z` stands for none.

* `Offset.readOffset?_text`: an offset is read back;
* `readDateTime?_append`: what is written with an offset is moved to offset zero;
* `ColumnType.read?_offset`: a time is read from what any clock shows, with its offset.
-/

namespace RowQuery

namespace Calendar

open Decimal (padded)

/-- An offset as it is written: a sign, hours and minutes. No offset has either sign. -/
structure Offset where
  ahead : Bool
  hours : Nat
  minutes : Nat
  hours_lt : hours < 24
  minutes_lt : minutes < 60

namespace Offset

/-- The minutes by which a clock with the offset is ahead. -/
def total (o : Offset) : Int :=
  let n : Nat := o.hours * 60 + o.minutes
  if o.ahead then n else -n

/-- The offset as text. -/
def text (o : Offset) : List Char :=
  (if o.ahead then '+' else '-') :: (padded 2 o.hours ++ ':' :: padded 2 o.minutes)

variable (o : Offset)

theorem natAbs_total_lt : o.total.natAbs < 24 * 60 := by
  have hhours := o.hours_lt
  have hminutes := o.minutes_lt
  rw [total]
  split <;> omega

/-- An offset is read back. -/
theorem readOffset?_text : readOffset? o.text = some o.total := by
  have hhours : o.hours < 100 := Nat.lt_trans o.hours_lt (by decide)
  have hminutes : o.minutes < 100 := Nat.lt_trans o.minutes_lt (by decide)
  have htwo : ∀ {n : Nat}, n < 100 → ∀ r, takeNumber 2 2 (padded 2 n ++ r) = some (n, r) :=
    takeNumber_padded (w := 2) (by decide) (by decide)
  have hlast := htwo hminutes []
  rw [List.append_nil] at hlast
  have hclock : ([] : List Char) = [] ∧ o.hours < 24 ∧ o.minutes < 60 :=
    ⟨rfl, o.hours_lt, o.minutes_lt⟩
  rw [text, total]
  cases o.ahead <;>
    simp [readOffset?, htwo hhours, takeChar_cons, hlast, hclock]

theorem isSpace_of_mem_text : ∀ c ∈ o.text, Text.isSpace c = false := by
  rw [text]
  refine List.forall_mem_cons.2 ⟨by split <;> decide, List.forall_mem_append.2
    ⟨fun _ => Decimal.isSpace_of_mem_padded, List.forall_mem_cons.2
      ⟨by decide, fun _ => Decimal.isSpace_of_mem_padded⟩⟩⟩

/-- An offset does not go on with the fraction in front of it. -/
theorem head?_text : ∀ c, o.text.head? = some c → c ≠ '.' ∧ c.isDigit = false := by
  intro c hc
  obtain rfl := Option.some.inj hc
  split <;> decide

end Offset

/-- What is written with an offset is moved to offset zero. -/
theorem readDateTime?_append {t d : DateTime} (hregular : t.Regular)
    (hyear : 0 ≤ t.date.year ∧ t.date.year ≤ 9999) {r : List Char}
    (hr : ∀ c, r.head? = some c → c ≠ '.' ∧ c.isDigit = false) {minutes : Int}
    (hoffset : readOffset? r = some minutes) (hd : t.minusOffset? minutes = some d) :
    readDateTime? (t.text ++ r) = some d := by
  have hstrict : readStrict? (t.text ++ r) = some d := by
    rw [readStrict?_append hyear hr, hoffset, DateTime.ofParts?_clock hregular]
    exact hd
  rw [readDateTime?, hstrict]
  rfl

end Calendar

open Calendar

/-- A time of four digits in the year, and no leap second, is read from what is shown at this
    instant by a clock with any offset: there is one time that such a clock shows, and if this one
    has four digits in the year, too, then its text with the offset behind it is read as the time.
    So is the text of the time itself with a `Z` behind it. -/
theorem ColumnType.read?_offset {d : DateTime} (hleap : d.nano < nanosPerSecond)
    (hyear : 0 ≤ d.date.year ∧ d.date.year ≤ 9999) (o : Offset) :
    (∃! t, d.Ahead o.total t) ∧
    (∀ t, d.Ahead o.total t → 0 ≤ t.date.year ∧ t.date.year ≤ 9999 →
      dateTime.read? (t.text ++ o.text) = some (.dateTime d)) ∧
    dateTime.read? (d.text ++ ['Z']) = some (.dateTime d) := by
  have hread : ∀ {t : DateTime} {r : List Char}, (∀ c ∈ r, Text.isSpace c = false) →
      readDateTime? (t.text ++ r) = some d →
      dateTime.read? (t.text ++ r) = some (.dateTime d) := by
    intro t r hr h
    have hvisible : ∀ c ∈ t.text ++ r, Text.isSpace c = false :=
      List.forall_mem_append.2 ⟨DateTime.isSpace_of_mem_text, hr⟩
    show (readDateTime? (Text.trim (t.text ++ r))).map Value.dateTime = _
    rw [Text.trim_eq_self hvisible, h]
    rfl
  refine ⟨?_, fun t ht hyear' => ?_, ?_⟩
  · have hfirst : firstYear < 0 := by decide
    have hlast : 9999 < lastYear := by decide
    exact DateTime.existsUnique_ahead o.natAbs_total_lt (by omega)
  · -- The clock that is ahead shows the same fraction, so no leap second either.
    have hregular : t.Regular := .inl (ht.nano ▸ hleap)
    exact hread o.isSpace_of_mem_text (readDateTime?_append hregular hyear' o.head?_text
      o.readOffset?_text ((DateTime.minusOffset?_eq_some_iff o.natAbs_total_lt).2 ht))
  · have hself : d.minusOffset? 0 = some d :=
      (DateTime.minusOffset?_eq_some_iff (by decide)).2 ⟨by omega, rfl⟩
    have hhead : ∀ c, ['Z'].head? = some c → c ≠ '.' ∧ c.isDigit = false := by
      rintro c ⟨⟩
      decide
    exact hread (List.forall_mem_singleton.2 (by decide))
      (readDateTime?_append (.inl hleap) hyear hhead rfl hself)

/-- Over the leap day that 1900 has not and 2024 has, to the west and to the east. -/
theorem ColumnType.read?_offset_leap_day :
    (∃ d : DateTime, (d.date.text = "1900-03-01".toList ∧ d.second = 600 ∧ d.nano = 0) ∧
      dateTime.read? "1900-02-28T23:50:00-00:20".toList = some (.dateTime d) ∧
      dateTime.read? "1900-03-01T00:10:00Z".toList = some (.dateTime d)) ∧
    ∃ d : DateTime, (d.date.text = "2024-02-28".toList ∧ d.second = 84600 ∧ d.nano = 123456789) ∧
      dateTime.read? "2024-02-29T05:15:00.123456789+05:45".toList = some (.dateTime d) ∧
      dateTime.read? "2024-02-28T23:30:00.123456789Z".toList = some (.dateTime d) := by
  constructor
  · let d : DateTime := ⟨⟨1900, 3, 1, by decide, by decide⟩, 600, 0, by decide, by decide⟩
    let t : DateTime := ⟨⟨1900, 2, 28, by decide, by decide⟩, 85800, 0, by decide, by decide⟩
    let o : Offset := ⟨false, 0, 20, by decide, by decide⟩
    have hahead : d.Ahead o.total t := ⟨by decide +kernel, rfl⟩
    have hshown : "1900-02-28T23:50:00-00:20".toList = t.text ++ o.text := by decide +kernel
    have hzero : "1900-03-01T00:10:00Z".toList = d.text ++ ['Z'] := by decide +kernel
    obtain ⟨-, hread, hread'⟩ := read?_offset (d := d) (by decide) (by decide) o
    rw [hshown, hzero]
    exact ⟨d, ⟨by decide +kernel, rfl, rfl⟩, hread t hahead (by decide), hread'⟩
  · let d : DateTime :=
      ⟨⟨2024, 2, 28, by decide, by decide⟩, 84600, 123456789, by decide, by decide⟩
    let t : DateTime :=
      ⟨⟨2024, 2, 29, by decide, by decide⟩, 18900, 123456789, by decide, by decide⟩
    let o : Offset := ⟨true, 5, 45, by decide, by decide⟩
    have hahead : d.Ahead o.total t := ⟨by decide +kernel, rfl⟩
    have hshown : "2024-02-29T05:15:00.123456789+05:45".toList = t.text ++ o.text := by
      decide +kernel
    have hzero : "2024-02-28T23:30:00.123456789Z".toList = d.text ++ ['Z'] := by decide +kernel
    obtain ⟨-, hread, hread'⟩ := read?_offset (d := d) (by decide) (by decide) o
    rw [hshown, hzero]
    exact ⟨d, ⟨by decide +kernel, rfl, rfl⟩, hread t hahead (by decide), hread'⟩

end RowQuery
