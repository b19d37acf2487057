import RowQuery.Proofs.Calendar
import RowQuery.Value.Reading
import RowQuery.Value.Text

/-!
# Values read back

What the cell of a table shows of a value is read as that value by the type of its column, if the
value is one that the type can read (`Value.Readable`). Floats are left out: one that is no number
is compared as equal to nothing, itself included. Readable values of one type are compared as equal
if and only if they are equal.

* `ColumnType.readable_of_read?`, `ColumnType.readable_of_ofJson?`: values that are read are
  readable;
* `ColumnType.read?_cell`: a readable value is read back from its cell;
* `Value.Readable.exists_compare?`: readable values of one type have an order;
* `Value.compare?_eq_some_eq`: which of them are compared as equal.
-/

namespace RowQuery

/-- The values that a type other than that of floats reads. -/
inductive Value.Readable : ColumnType → Value → Prop
  | bool (b : Bool) : Readable .boolean (.bool b)
  | int {i : Int} (h : Decimal.isInt64 i = true) : Readable .integer (.int i)
  | text (s : String) : Readable .text (.text s)
  | date (d : Calendar.Date) : Readable .date (.date d)
  | dateTime {t : Calendar.DateTime} (h : t.Regular) : Readable .dateTime (.dateTime t)

namespace ColumnType

variable {t : ColumnType} {v : Value}

theorem readable_of_read? {s : List Char} (ht : t ≠ .float) (h : t.read? s = some v) :
    v.Readable t := by
  cases t with
  | float => exact absurd rfl ht
  | integer =>
    obtain ⟨i, hi, rfl⟩ := Option.map_eq_some_iff.1 h
    exact .int (Option.filter_eq_some_iff.1 hi).2
  | text =>
    cases h
    exact .text _
  | boolean =>
    obtain ⟨b, -, rfl⟩ := Option.map_eq_some_iff.1 h
    exact .bool b
  | date =>
    obtain ⟨d, -, rfl⟩ := Option.map_eq_some_iff.1 h
    exact .date d
  | dateTime =>
    obtain ⟨time, htime, rfl⟩ := Option.map_eq_some_iff.1 h
    exact .dateTime (Calendar.regular_of_readDateTime? htime)

/-- What JSON data hold for a column is null or readable. -/
theorem readable_of_ofJson? {j : Json} (ht : t ≠ .float) (h : t.ofJson? j = some v)
    (hv : v ≠ .null) : v.Readable t := by
  unfold ofJson? at h
  split at h
  · cases h
    exact absurd rfl hv
  · split at h
    · rename_i hi
      cases h
      exact .int hi
    · cases h
  · exact absurd rfl ht
  · exact absurd rfl ht
  · cases h
    exact .bool _
  · cases h
    exact .text _
  · cases h
    exact .text _
  · cases h
    exact .text _
  · exact readable_of_read? ht h
  · cases h

/-- A readable value is read back from its cell. -/
theorem read?_cell (h : v.Readable t) : t.read? v.cell = some v := by
  cases h with
  | bool b => cases b <;> rfl
  | @int i h =>
    show (Decimal.readInt64? (Text.trim (Decimal.intText i))).map Value.int = _
    rw [Decimal.readInt64?_trim_intText, Option.filter_some_pos h]
    rfl
  | text s =>
    show some (Value.text (String.ofList s.toList)) = _
    rw [String.ofList_toList]
  | date d =>
    show (Calendar.readDate? (Text.trim d.text)).map Value.date = _
    rw [Text.trim_eq_self Calendar.Date.isSpace_of_mem_text, Calendar.readDate?_text]
    rfl
  | @dateTime time h =>
    show (Calendar.readDateTime? (Text.trim time.text)).map Value.dateTime = _
    rw [Text.trim_eq_self Calendar.DateTime.isSpace_of_mem_text, Calendar.readDateTime?_text h]
    rfl

end ColumnType

namespace Value

variable {t : ColumnType} {v w : Value}

theorem Readable.type?_eq (hv : v.Readable t) : v.type? = some t := by
  cases hv <;> rfl

/-- Readable values of one type have an order. -/
theorem Readable.exists_compare? (hv : v.Readable t) (hw : w.Readable t) :
    ∃ o, v.compare? w = some o := by
  cases hv <;> cases hw <;> exact ⟨_, rfl⟩

/-- Readable values of one type are compared as equal only if they are. -/
theorem compare?_eq_some_eq (hv : v.Readable t) (hw : w.Readable t) :
    v.compare? w = some .eq ↔ v = w := by
  cases hv with
  | bool a =>
    cases hw with
    | bool b => simp [compare?]
  | int _ =>
    cases hw with
    | int _ => simp [compare?]
  | text a =>
    cases hw with
    | text b => simp [compare?]
  | date a =>
    cases hw with
    | date b =>
      simp only [compare?, Option.some.injEq, Value.date.injEq, Std.LawfulEqCmp.compare_eq_iff_eq]
      exact ⟨Calendar.Date.position_inj, congrArg _⟩
  | dateTime _ =>
    cases hw with
    | dateTime _ =>
      simp only [compare?, Option.some.injEq, Value.dateTime.injEq,
        Std.LawfulEqCmp.compare_eq_iff_eq]
      exact ⟨Calendar.DateTime.position_inj, congrArg _⟩

end Value

end RowQuery
