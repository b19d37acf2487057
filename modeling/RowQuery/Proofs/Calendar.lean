import RowQuery.Calendar.Reading
import RowQuery.Calendar.Writing
import RowQuery.Proofs.Calendar.Instants
import RowQuery.Proofs.Decimal

/-!
# Days and times read back

What is written for a day or a time is read back. Each reader takes off the front of a text what the
writer has put there, whatever follows. A time is first tried as one with an offset, which fails
only where the offset should be: all in front of it may well be of the right form.

A time need not be one that a clock shows: its fraction may exceed a second at any second. Those
that are read are *regular*, and exceed it in the last second of a minute only.

* `takeDate_text`, `readDate?_text`: a day is read back;
* `readStrict?_append`, `readStrict?_text`: what has to follow a written time that is read with an
  offset, and that no time is written with one;
* `readDateTime?_text`: a regular time is read back;
* `regular_of_readDateTime?`: times that are read are regular.
-/

namespace RowQuery.Calendar

open Decimal (padded value power)

variable {α β : Type} {x : Option α} {f : α → Option β}

theorem bind_of_eq_some {a : α} {b? : Option β} (hx : x = some a) (hf : f a = b?) :
    x >>= f = b? := by
  rw [hx]
  exact hf

theorem of_bind_eq_some {P : β → Prop} (step : ∀ a b, f a = some b → P b) {b : β}
    (h : x >>= f = some b) : P b := by
  obtain ⟨a, -, h⟩ := Option.bind_eq_some_iff.1 h
  exact step a b h

/-! ## Numbers -/

theorem takeNumber_append {least most : Nat} {ds r : List Char}
    (hds : ∀ c ∈ ds, c.isDigit = true) (hleast : least ≤ ds.length) (hmost : ds.length ≤ most)
    (hend : ds.length = most ∨ ∀ c, r.head? = some c → c.isDigit = false) :
    takeNumber least most (ds ++ r) = some (value ds, r) := by
  have hrest : (r.take (most - ds.length)).takeWhile Char.isDigit = [] := by
    rcases hend with hend | hend
    · rw [hend, Nat.sub_self, List.take_zero, List.takeWhile_nil]
    · cases r with
      | nil => rw [List.take_nil, List.takeWhile_nil]
      | cons c r =>
        cases most - ds.length with
        | zero => rfl
        | succ k => exact List.takeWhile_cons_of_neg (by simp [hend c rfl])
  have hrun : ((ds ++ r).take most).takeWhile Char.isDigit = ds := by
    rw [List.take_append, List.take_of_length_le hmost, List.takeWhile_append_of_pos hds, hrest,
      List.append_nil]
  simp only [takeNumber, hrun, if_pos hleast, List.drop_left]

/-- A number in its full width is taken off, whatever follows. -/
theorem takeNumber_padded {least w n : Nat} (hw : 0 < w) (hleast : least ≤ w) (h : n < power 10 w)
    (r : List Char) : takeNumber least w (padded w n ++ r) = some (n, r) := by
  have hlength := Decimal.length_padded hw h
  rw [takeNumber_append (fun _ => Decimal.isDigit_of_mem_padded) (by omega)
    (Nat.le_of_eq hlength) (.inl hlength), Decimal.value_padded]

theorem exists_padded (w n : Nat) :
    ∃ c s, padded w n = c :: s ∧ c.isDigit = true := by
  obtain ⟨c, s, hcs⟩ := List.exists_cons_of_length_pos (Decimal.length_padded_pos (w := w) (n := n))
  exact ⟨c, s, hcs, Decimal.isDigit_of_mem_padded (hcs ▸ List.mem_cons_self)⟩

theorem trimStart_padded (w n : Nat) (r : List Char) :
    Text.trimStart (padded w n ++ r) = padded w n ++ r := by
  obtain ⟨c, s, hcs, hc⟩ := exists_padded w n
  rw [hcs, List.cons_append, Text.trimStart_cons (Text.isSpace_of_isDigit hc)]

theorem takePart_padded {n : Nat} (h : n < 100) (r : List Char) :
    takePart (padded 2 n ++ r) = some (n, r) := by
  rw [takePart, trimStart_padded, takeNumber_padded (by decide) (by decide) h]

theorem takeChar_cons (c : Char) (s : List Char) : takeChar c (c :: s) = some s :=
  if_pos rfl

/-! ## Days -/

/-- Without a sign a year has up to four digits. -/
theorem takeYear_digit {c : Char} (hc : c.isDigit = true) (s : List Char) :
    takeYear (c :: s) = (takeNumber 1 4 (c :: s)).map fun (n, t) => ((n : Int), t) := by
  rw [takeYear, Text.trimStart_cons (Text.isSpace_of_isDigit hc)]
  split
  · rename_i hcs
    rw [(List.cons.inj hcs).1] at hc
    exact absurd hc (by decide)
  · rename_i hcs
    rw [(List.cons.inj hcs).1] at hc
    exact absurd hc (by decide)
  · rfl

/-- A year is taken off, if no digit follows. -/
theorem takeYear_yearText (year : Int) {r : List Char}
    (hr : ∀ c, r.head? = some c → c.isDigit = false) :
    takeYear (yearText year ++ r) = some (year, r) := by
  have hsigned : takeNumber 1 (padded 4 year.natAbs ++ r).length (padded 4 year.natAbs ++ r) =
      some (year.natAbs, r) := by
    rw [takeNumber_append (fun _ => Decimal.isDigit_of_mem_padded) Decimal.length_padded_pos
      (by rw [List.length_append]; omega) (.inr hr), Decimal.value_padded]
  rw [yearText]
  split
  · have hyear : -(year.natAbs : Int) = year := by omega
    rw [List.cons_append, takeYear, Text.trimStart_cons (by decide)]
    simp only [hsigned, Option.map_some, hyear]
  split
  · have hyear : (year.natAbs : Int) = year := by omega
    rw [List.cons_append, takeYear, Text.trimStart_cons (by decide)]
    simp only [hsigned, Option.map_some, hyear]
  · have hyear : (year.natAbs : Int) = year := by omega
    have hsmall : year.natAbs < 10000 := by omega
    have hplain : takeNumber 1 4 (padded 4 year.natAbs ++ r) = some (year.natAbs, r) :=
      takeNumber_padded (by decide) (by decide) hsmall r
    obtain ⟨c, s, hcs, hc⟩ := exists_padded 4 year.natAbs
    rw [hcs, List.cons_append] at hplain ⊢
    simp only [takeYear_digit hc, hplain, Option.map_some, hyear]

/-- A day is taken off, whatever follows. -/
theorem takeDate_text (d : Date) (r : List Char) : takeDate (d.text ++ r) = some (d, r) := by
  have hmonth : d.month < 100 := by have := d.month_mem; omega
  have hday : d.day < 100 := by have := d.day_le; omega
  have hmark : ∀ c, ('-' :: (padded 2 d.month ++ '-' :: (padded 2 d.day ++ r))).head? = some c →
      c.isDigit = false := by
    rintro c ⟨⟩
    rfl
  simp only [takeDate, Date.text, List.append_assoc, List.cons_append, takeYear_yearText _ hmark,
    takeChar_cons, takePart_padded hmonth, takePart_padded hday, Date.ofParts?_self,
    Option.bind_eq_bind, Option.bind_some, Option.pure_def]

/-- A day is read back. -/
theorem readDate?_text (d : Date) : readDate? d.text = some d := by
  have h := takeDate_text d []
  rw [List.append_nil] at h
  rw [readDate?, h]
  rfl

/-! ## Times -/

variable {r : List Char}

/-- A fraction in its full width is taken off, if no digit follows. -/
theorem takeFraction_padded {w n : Nat} (hw : 0 < w) (hw' : w ≤ 9) (h : n < power 10 w)
    (hr : ∀ c, r.head? = some c → c.isDigit = false) :
    takeFraction ('.' :: (padded w n ++ r)) = some (n * power 10 (9 - w), r) := by
  have hlength := Decimal.length_padded hw h
  have hrest : r.takeWhile Char.isDigit = [] := by
    cases r with
    | nil => rfl
    | cons c r => exact List.takeWhile_cons_of_neg (by simp [hr c rfl])
  have hrun : (padded w n ++ r).takeWhile Char.isDigit = padded w n := by
    rw [List.takeWhile_append_of_pos fun _ => Decimal.isDigit_of_mem_padded, hrest,
      List.append_nil]
  have hne : padded w n ≠ [] := List.ne_nil_of_length_pos Decimal.length_padded_pos
  simp only [takeFraction, hrun, if_neg hne, List.take_of_length_le (hlength ▸ hw'),
    Decimal.value_padded, hlength, List.drop_left' hlength]

/-- A fraction of a second is taken off, if neither a point nor a digit follows. -/
theorem takeFraction_append {nano : Nat} (h : nano < nanosPerSecond)
    (hr : ∀ c, r.head? = some c → c ≠ '.' ∧ c.isDigit = false) :
    takeFraction (fractionText nano ++ r) = some (nano, r) := by
  have hdigit := fun c hc => (hr c hc).2
  rw [nanosPerSecond] at h
  rw [fractionText]
  split
  · rename_i hzero
    rw [hzero, List.nil_append, takeFraction.eq_2]
    rintro s rfl
    exact (hr '.' rfl).1 rfl
  split
  · have hpower : nano / 1000000 * power 10 (9 - 3) = nano := by
      show nano / 1000000 * 1000000 = nano
      omega
    have hsmall : nano / 1000000 < 1000 := by omega
    rw [List.cons_append, takeFraction_padded (w := 3) (by decide) (by decide) hsmall hdigit,
      hpower]
  split
  · have hpower : nano / 1000 * power 10 (9 - 6) = nano := by
      show nano / 1000 * 1000 = nano
      omega
    have hsmall : nano / 1000 < 1000000 := by omega
    rw [List.cons_append, takeFraction_padded (w := 6) (by decide) (by decide) hsmall hdigit,
      hpower]
  · rw [List.cons_append, takeFraction_padded (by decide) (by decide) h hdigit]
    simp [power]

/-- A fraction of a second is taken off the end. -/
theorem takeFraction_text {nano : Nat} (h : nano < nanosPerSecond) :
    takeFraction (fractionText nano) = some (nano, []) := by
  have hempty := takeFraction_append (r := []) h nofun
  rwa [List.append_nil] at hempty

namespace DateTime

/-- A time that a clock shows: a fraction of a whole second or more is that of a leap second, at the
    end of a minute. -/
def Regular (t : DateTime) : Prop :=
  t.nano < nanosPerSecond ∨ t.second % 60 = 59

variable {t : DateTime} {date : Date} {hour minute second nano : Nat}

theorem dite_eq_some {s n : Nat} : (if h : s < secondsPerDay ∧ n < 2 * nanosPerSecond then
    some (⟨date, s, n, h.1, h.2⟩ : DateTime) else none) = some t ↔
      t.date = date ∧ t.second = s ∧ t.nano = n := by
  constructor
  · intro h
    split at h
    · cases h
      exact ⟨rfl, rfl, rfl⟩
    · cases h
  · rintro ⟨rfl, rfl, rfl⟩
    rw [dif_pos ⟨t.second_lt, t.nano_lt⟩]

/-- Which parts make a time, and which one. -/
theorem ofParts?_eq_some : ofParts? date hour minute second nano = some t ↔
    (hour < 24 ∧ minute < 60 ∧ second ≤ 60 ∧ nano < nanosPerSecond) ∧ t.date = date ∧
      t.second = (if second = 60 then hour * 3600 + minute * 60 + 59
        else hour * 3600 + minute * 60 + second) ∧
      t.nano = if second = 60 then nano + nanosPerSecond else nano := by
  have hparts : (hour < 24 && minute < 60 && second ≤ 60 && nano < nanosPerSecond) = true ↔
      hour < 24 ∧ minute < 60 ∧ second ≤ 60 ∧ nano < nanosPerSecond := by
    simp [and_assoc]
  rw [ofParts?, ← hparts]
  split
  · rename_i h
    rw [dite_eq_some]
    exact (and_iff_right h).symm
  · rename_i h
    exact iff_of_false (fun h' => by cases h') fun h' => h h'.1

/-- A regular time has the parts that a clock shows. -/
theorem ofParts?_clock (h : t.Regular) :
    ofParts? t.date (t.second / 3600) (t.second / 60 % 60)
      (t.second % 60 + t.nano / nanosPerSecond) (t.nano % nanosPerSecond) = some t := by
  have hsecond := t.second_lt
  have hnano := t.nano_lt
  rw [Regular] at h
  refine ofParts?_eq_some.2 ⟨?_, rfl, ?_, ?_⟩
  · simp only [nanosPerSecond, secondsPerDay] at *
    omega
  · split <;> simp only [nanosPerSecond, secondsPerDay] at * <;> omega
  · split <;> simp only [nanosPerSecond, secondsPerDay] at * <;> omega

theorem regular_of_ofParts? (h : ofParts? date hour minute second nano = some t) :
    t.Regular := by
  obtain ⟨⟨-, -, -, hnano⟩, -, hs, hn⟩ := ofParts?_eq_some.1 h
  rw [Regular, hs, hn]
  split
  · right
    omega
  · left
    exact hnano

theorem regular_midnight (d : Date) : (midnight d).Regular :=
  .inl (Nat.zero_lt_succ _)

/-- An offset is one of whole minutes, and leaves a regular time regular. -/
theorem regular_of_minusOffset? {minutes : Int} (hminutes : minutes.natAbs < 24 * 60)
    {u : DateTime} (hu : u.Regular) (h : u.minusOffset? minutes = some t) : t.Regular := by
  obtain ⟨hclock, hnano⟩ := (minusOffset?_eq_some_iff hminutes).1 h
  simp only [clock, secondsPerDay] at hclock
  rw [Regular, hnano] at hu
  exact hu.imp_right fun hlast => by omega

end DateTime

variable {t : DateTime} {s : List Char}

/-- What is written of a time behind its day. -/
theorem DateTime.text_eq (t : DateTime) : t.text =
    t.date.text ++ 'T' :: (padded 2 (t.second / 3600) ++ ':' :: (padded 2 (t.second / 60 % 60) ++
      ':' :: (padded 2 (t.second % 60 + t.nano / nanosPerSecond) ++
        fractionText (t.nano % nanosPerSecond)))) := by
  simp only [DateTime.text, clockText, List.append_assoc, List.cons_append]

theorem DateTime.clock_lt (t : DateTime) : t.second / 3600 < 100 ∧ t.second / 60 % 60 < 100 ∧
    t.second % 60 + t.nano / nanosPerSecond < 100 := by
  have hsecond := t.second_lt
  have hnano := t.nano_lt
  simp only [secondsPerDay, nanosPerSecond] at *
  omega

/-- A regular time is read back in the manner in which it is written. -/
theorem readRelaxed?_text (h : t.Regular) : readRelaxed? (takeChar 'T') t.text = some t := by
  obtain ⟨hhour, hminute, hsecond⟩ := t.clock_lt
  have hnano : t.nano % nanosPerSecond < nanosPerSecond := Nat.mod_lt _ (by decide)
  simp only [readRelaxed?, DateTime.text_eq, takeDate_text, takeChar_cons, takePart_padded hhour,
    takePart_padded hminute, takePart_padded hsecond, takeFraction_text hnano,
    DateTime.ofParts?_clock h, Option.bind_eq_bind, Option.bind_some, if_true]

/-- The strict manner takes a time off whose year has four digits. What follows has to be an
    offset. -/
theorem readStrict?_append (hyear : 0 ≤ t.date.year ∧ t.date.year ≤ 9999) {r : List Char}
    (hr : ∀ c, r.head? = some c → c ≠ '.' ∧ c.isDigit = false) :
    readStrict? (t.text ++ r) = (readOffset? r).bind fun offset =>
      (DateTime.ofParts? t.date (t.second / 3600) (t.second / 60 % 60)
        (t.second % 60 + t.nano / nanosPerSecond) (t.nano % nanosPerSecond)).bind
          (·.minusOffset? offset) := by
  obtain ⟨hhour, hminute, hsecond⟩ := t.clock_lt
  have hnano : t.nano % nanosPerSecond < nanosPerSecond := Nat.mod_lt _ (by decide)
  have hmonth : t.date.month < 100 := by have := t.date.month_mem; omega
  have hday : t.date.day < 100 := by have := t.date.day_le; omega
  have hdate : Date.ofParts? t.date.year.natAbs t.date.month t.date.day = some t.date := by
    rw [Int.natAbs_of_nonneg hyear.1, Date.ofParts?_self]
  have htwo : ∀ {n : Nat}, n < 100 → ∀ r, takeNumber 2 2 (padded 2 n ++ r) = some (n, r) :=
    takeNumber_padded (w := 2) (by decide) (by decide)
  rw [DateTime.text_eq, Date.text, yearText]
  simp only [List.append_assoc, List.cons_append]
  rw [if_neg (by omega), if_neg (by omega)]
  have hyear : t.date.year.natAbs < 10000 := by omega
  refine bind_of_eq_some (takeNumber_padded (Nat.zero_lt_succ 3) (Nat.le_refl 4) hyear _) ?_
  refine bind_of_eq_some (takeChar_cons _ _) (bind_of_eq_some (htwo hmonth _) ?_)
  refine bind_of_eq_some (takeChar_cons _ _) (bind_of_eq_some (htwo hday _) ?_)
  refine bind_of_eq_some rfl (bind_of_eq_some (htwo hhour _) ?_)
  refine bind_of_eq_some (takeChar_cons _ _) (bind_of_eq_some (htwo hminute _) ?_)
  refine bind_of_eq_some (takeChar_cons _ _) (bind_of_eq_some (htwo hsecond _) ?_)
  refine bind_of_eq_some (takeFraction_append hnano hr) ?_
  simp only [hdate, Option.bind_eq_bind, Option.bind_some]

/-- No time is written with an offset. -/
theorem readStrict?_text (t : DateTime) : readStrict? t.text = none := by
  by_cases hyear : 0 ≤ t.date.year ∧ t.date.year ≤ 9999
  · -- The text is used up where an offset should follow.
    rw [← List.append_nil t.text, readStrict?_append (r := []) hyear nofun]
    rfl
  · -- The year begins with its sign.
    rw [DateTime.text_eq, Date.text, yearText]
    by_cases hnegative : t.date.year < 0
    · rw [if_pos hnegative]
      rfl
    · rw [if_neg hnegative, if_pos (by omega)]
      rfl

/-- A regular time is read back. -/
theorem readDateTime?_text (h : t.Regular) : readDateTime? t.text = some t := by
  rw [readDateTime?, readStrict?_text, readRelaxed?_text h]
  rfl

/-! ## Which characters are written -/

section Characters

variable {P : Char → Prop}

/-- A day is written in digits and a few marks. -/
theorem Date.forall_mem_text {d : Date} (hdigit : ∀ c, c.isDigit = true → P c)
    (hmark : ∀ c ∈ ['+', '-', 'T', ':', '.'], P c) : ∀ c ∈ d.text, P c := by
  have hpadded : ∀ {w n : Nat}, ∀ c ∈ padded w n, P c :=
    fun c hc => hdigit c (Decimal.isDigit_of_mem_padded hc)
  have hyear : ∀ c ∈ yearText d.year, P c := by
    rw [yearText]
    split
    · exact List.forall_mem_cons.2 ⟨hmark _ (by decide), hpadded⟩
    split
    · exact List.forall_mem_cons.2 ⟨hmark _ (by decide), hpadded⟩
    · exact hpadded
  simp only [Date.text, List.forall_mem_append, List.forall_mem_cons]
  exact ⟨⟨hyear, hmark _ (by decide), hpadded⟩, hmark _ (by decide), hpadded⟩

/-- A time is written in digits and a few marks. -/
theorem DateTime.forall_mem_text {t : DateTime} (hdigit : ∀ c, c.isDigit = true → P c)
    (hmark : ∀ c ∈ ['+', '-', 'T', ':', '.'], P c) : ∀ c ∈ t.text, P c := by
  have hpadded : ∀ {w n : Nat}, ∀ c ∈ padded w n, P c :=
    fun c hc => hdigit c (Decimal.isDigit_of_mem_padded hc)
  have hfraction : ∀ c ∈ fractionText (t.nano % nanosPerSecond), P c := by
    have hpoint : ∀ {w n : Nat}, ∀ c ∈ '.' :: padded w n, P c :=
      List.forall_mem_cons.2 ⟨hmark _ (by decide), hpadded⟩
    rw [fractionText]
    split
    · exact nofun
    split
    · exact hpoint
    split <;> exact hpoint
  simp only [text_eq, List.forall_mem_append, List.forall_mem_cons]
  exact ⟨Date.forall_mem_text hdigit hmark, hmark _ (by decide), hpadded, hmark _ (by decide),
    hpadded, hmark _ (by decide), hpadded, hfraction⟩

theorem Date.isSpace_of_mem_text {d : Date} : ∀ c ∈ d.text, Text.isSpace c = false :=
  Date.forall_mem_text (fun _ => Text.isSpace_of_isDigit)
    (by simp [Text.isSpace, Text.spaceRanges, Text.Ranges.has])

theorem DateTime.isSpace_of_mem_text {t : DateTime} : ∀ c ∈ t.text, Text.isSpace c = false :=
  DateTime.forall_mem_text (fun _ => Text.isSpace_of_isDigit)
    (by simp [Text.isSpace, Text.spaceRanges, Text.Ranges.has])

end Characters

/-! ## Which times are read -/

/-- An offset is less than a day. -/
theorem natAbs_lt_of_readOffset? {m : Int} (h : readOffset? s = some m) :
    m.natAbs < 24 * 60 := by
  unfold readOffset? at h
  split at h
  · cases h
    decide
  · cases h
    decide
  · simp only [Option.bind_eq_bind, Option.bind_eq_some_iff, Prod.exists] at h
    obtain ⟨hours, _, -, _, -, minutes, _, -, h⟩ := h
    split at h
    · rename_i hclock
      obtain ⟨-, hhours, hminutes⟩ := hclock
      split at h
      · cases h
        omega
      split at h
      · cases h
        omega
      · cases h
    · cases h
  · cases h

theorem regular_of_readStrict? : readStrict? s = some t → t.Regular := by
  -- The year, five times a mark and a number, and the fraction.
  refine of_bind_eq_some fun (_, _) t => ?_
  iterate 5 refine of_bind_eq_some fun _ t => of_bind_eq_some fun (_, _) t => ?_
  refine of_bind_eq_some fun (_, _) t h => ?_
  obtain ⟨offset, hoffset, h⟩ := Option.bind_eq_some_iff.1 h
  obtain ⟨date, -, h⟩ := Option.bind_eq_some_iff.1 h
  obtain ⟨u, hu, h⟩ := Option.bind_eq_some_iff.1 h
  exact DateTime.regular_of_minusOffset? (natAbs_lt_of_readOffset? hoffset)
    (DateTime.regular_of_ofParts? hu) h

/-- What is made of parts if nothing is left of the text is regular. -/
theorem regular_of_ite {p : Prop} [Decidable p] {date : Date} {hour minute second nano : Nat}
    (h : (if p then DateTime.ofParts? date hour minute second nano else none) = some t) :
    t.Regular :=
  DateTime.regular_of_ofParts? (Option.ite_none_right_eq_some.1 h).2

theorem regular_of_readRelaxed? {between : List Char → Option (List Char)} :
    readRelaxed? between s = some t → t.Regular := by
  refine of_bind_eq_some fun (_, _) t => ?_
  iterate 3 refine of_bind_eq_some fun _ t => of_bind_eq_some fun (_, _) t => ?_
  exact of_bind_eq_some fun (_, _) t => regular_of_ite

theorem regular_of_readToMinute? : readToMinute? s = some t → t.Regular := by
  refine of_bind_eq_some fun (_, _) t => ?_
  iterate 2 refine of_bind_eq_some fun _ t => of_bind_eq_some fun (_, _) t => ?_
  exact regular_of_ite

/-- Times that are read are regular. -/
theorem regular_of_readDateTime? (h : readDateTime? s = some t) : t.Regular := by
  simp only [readDateTime?, Option.orElse_eq_orElse, Option.orElse_eq_or,
    Option.or_eq_some_iff] at h
  rcases h with h | ⟨-, h | ⟨-, h | ⟨-, h | ⟨-, h⟩⟩⟩⟩
  · exact regular_of_readStrict? h
  · exact regular_of_readRelaxed? h
  · exact regular_of_readRelaxed? h
  · exact regular_of_readToMinute? h
  · obtain ⟨d, -, rfl⟩ := Option.map_eq_some_iff.1 h
    exact DateTime.regular_midnight d

end RowQuery.Calendar
