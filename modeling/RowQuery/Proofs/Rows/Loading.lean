import RowQuery.Proofs.Value
import RowQuery.Schema

/-!
# Rows from data

A row is made from an object of JSON data if the object holds a value of its type for every column,
or none at all. What the row is written as is an object too, and the same row is made from it: the
type of a column picks the reader for a cell, and every reader takes what is written of its values.
Floats are left out, for one that is no number is written as null.

* `Schema.rowOfObject_eq_ok`, `Schema.exists_of_rowOfObject_eq_error`: which objects make a row, and
  which one, and why another makes none;
* `Schema.value_rowOfObject`, `Schema.readable_of_rowOfObject`: what the row holds;
* `ColumnType.ofJson?_toJson`: a readable value is read back from what it is written as;
* `Schema.rowOfObject_toJson`: a row is made from what it is written as.
-/

namespace RowQuery

/-- A readable value is read back from what it is written as. -/
theorem ColumnType.ofJson?_toJson {t : ColumnType} {v : Value} (h : v.Readable t) :
    t.ofJson? v.toJson = some v := by
  have hcell := ColumnType.read?_cell h
  cases h with
  | bool b => rfl
  | int hi => exact if_pos hi
  | text s =>
    show text.read? s.toList = _
    exact hcell
  | date d =>
    show date.read? (String.ofList d.text).toList = _
    rw [String.toList_ofList]
    exact hcell
  | @dateTime time _ =>
    show dateTime.read? (String.ofList time.text).toList = _
    rw [String.toList_ofList]
    exact hcell

namespace Schema

variable {s : Schema} {members : Members} {row : Row} {column : String} {type : ColumnType}

/-! ## Which objects make a row -/

/-- An object has no fault if it holds a value of its type, or none, for every column. -/
theorem fault?_eq_none : s.fault? members = none ↔
    ∀ name type, s.types.get? name = some type → (cell? members name type).isSome = true := by
  rw [fault?, List.findSome?_eq_none_iff]
  constructor
  · intro h name type htype
    have hnone := h ⟨name, type⟩
      (List.mem_map.2 ⟨(name, type), Named.get?_eq_some_iff.1 htype, rfl⟩)
    cases hj : members.lookup name with
    | none => simp [cell?, hj]
    | some j =>
      cases hcell : cell? members name type with
      | none => simp [hj, hcell] at hnone
      | some v => rfl
  · intro h c hc
    obtain ⟨⟨name, type⟩, he, rfl⟩ := List.mem_map.1 hc
    obtain ⟨v, hv⟩ := Option.isSome_iff_exists.1 (h name type (Named.get?_eq_some_iff.2 he))
    simp only [hv]
    cases members.lookup name <;> rfl

/-- Which objects make a row, and which one. -/
theorem rowOfObject_eq_ok : s.rowOfObject members = .ok row ↔
    (∀ name type, s.types.get? name = some type → (cell? members name type).isSome = true) ∧
      row = s.types.mapWithName fun name type => (cell? members name type).getD .null := by
  rw [← fault?_eq_none, rowOfObject]
  cases s.fault? members with
  | some e => exact iff_of_false nofun fun h => nomatch h.1
  | none => exact ⟨fun h => ⟨rfl, (Except.ok.inj h).symm⟩, fun h => congrArg _ h.2.symm⟩

/-- Why an object makes no row. -/
theorem exists_of_rowOfObject_eq_error {e : FilterError} (h : s.rowOfObject members = .error e) :
    ∃ name type j, s.types.get? name = some type ∧ members.lookup name = some j ∧
      type.ofJson? j = none ∧ e = .unreadable name j.compact type := by
  rw [rowOfObject] at h
  cases hfault : s.fault? members with
  | none =>
    rw [hfault] at h
    cases h
  | some e' =>
    rw [hfault] at h
    cases h
    obtain ⟨c, hc, hfound⟩ := List.exists_of_findSome?_eq_some hfault
    obtain ⟨⟨name, type⟩, he, rfl⟩ := List.mem_map.1 hc
    cases hj : members.lookup name with
    | none => simp [hj] at hfound
    | some j =>
      cases hv : type.ofJson? j with
      | none =>
        simp only [hj, cell?, hv, Option.some.injEq] at hfound
        exact ⟨name, type, j, Named.get?_eq_some_iff.2 he, hj, hv, hfound.symm⟩
      | some v => simp [hj, cell?, hv] at hfound

/-- An object with the same cells makes the same row. -/
theorem rowOfObject_congr {members' : Members} (hcell : ∀ name type,
      s.types.get? name = some type → cell? members' name type = cell? members name type)
    (hrow : s.rowOfObject members = .ok row) : s.rowOfObject members' = .ok row := by
  obtain ⟨hsome, rfl⟩ := rowOfObject_eq_ok.1 hrow
  refine rowOfObject_eq_ok.2 ⟨fun name type hcolumn => ?_, ?_⟩
  · rw [hcell name type hcolumn]
    exact hsome name type hcolumn
  · refine Named.ext_entries (List.map_congr_left fun e he => ?_)
    have hsame := hcell e.1 e.2 (Named.get?_eq_some_iff.2 he)
    simp only [hsame]

/-! ## What a row holds -/

/-- A row has the columns of its schema. -/
theorem names_rowOfObject (hrow : s.rowOfObject members = .ok row) :
    row.names = s.types.names := by
  obtain ⟨-, rfl⟩ := rowOfObject_eq_ok.1 hrow
  exact List.map_map

theorem value_rowOfObject (hcolumn : s.types.get? column = some type)
    (hrow : s.rowOfObject members = .ok row) :
    row.value column = (cell? members column type).getD .null := by
  rw [(rowOfObject_eq_ok.1 hrow).2, Row.value, Named.get?_mapWithName, hcolumn]
  rfl

theorem cell?_of_rowOfObject (hcolumn : s.types.get? column = some type)
    (hrow : s.rowOfObject members = .ok row) :
    cell? members column type = some (row.value column) := by
  obtain ⟨v, hv⟩ := Option.isSome_iff_exists.1 ((rowOfObject_eq_ok.1 hrow).1 column type hcolumn)
  rw [value_rowOfObject hcolumn hrow, hv]
  rfl

/-- A cell of a row that is made from data is empty or holds a readable value. -/
theorem readable_of_rowOfObject (hcolumn : s.types.get? column = some type)
    (htype : type ≠ .float) (hrow : s.rowOfObject members = .ok row)
    (hnull : row.value column ≠ .null) : (row.value column).Readable type := by
  have hcell := cell?_of_rowOfObject hcolumn hrow
  rw [cell?] at hcell
  split at hcell
  · exact absurd (Option.some.inj hcell).symm hnull
  · exact ColumnType.readable_of_ofJson? htype hcell hnull

/-! ## What a row is written as -/

/-- The members that a row is written as. -/
theorem toJson_eq (row : Row) :
    row.toJson = .object (row.mapWithName fun _ => Value.toJson).entries :=
  rfl

/-- A cell is read back from what the row is written as. -/
theorem cell?_toJson (hcolumn : s.types.get? column = some type) (htype : type ≠ .float)
    (hrow : s.rowOfObject members = .ok row) :
    cell? (row.mapWithName fun _ => Value.toJson).entries column type =
      some (row.value column) := by
  have hget : row.get? column = some (row.value column) := by
    rw [value_rowOfObject hcolumn hrow, (rowOfObject_eq_ok.1 hrow).2, Named.get?_mapWithName,
      hcolumn]
    rfl
  have hlookup : (row.mapWithName fun _ => Value.toJson).entries.lookup column =
      some (row.value column).toJson := by
    show (row.mapWithName fun _ => Value.toJson).get? column = _
    rw [Named.get?_mapWithName, hget]
    rfl
  simp only [cell?, hlookup]
  by_cases hnull : row.value column = .null
  · rw [hnull]
    cases type <;> rfl
  · exact ColumnType.ofJson?_toJson (readable_of_rowOfObject hcolumn htype hrow hnull)

/-- A row under a schema without floats is made from what it is written as. -/
theorem rowOfObject_toJson (hfloat : ∀ name, s.types.get? name ≠ some .float)
    (hrow : s.rowOfObject members = .ok row) :
    ∃ written, row.toJson = .object written ∧ s.rowOfObject written = .ok row := by
  have hcell : ∀ name type, s.types.get? name = some type →
      cell? (row.mapWithName fun _ => Value.toJson).entries name type = some (row.value name) := by
    intro name type hcolumn
    exact cell?_toJson hcolumn (fun htype => hfloat name (htype ▸ hcolumn)) hrow
  refine ⟨_, toJson_eq row, rowOfObject_congr (fun name type hcolumn => ?_) hrow⟩
  rw [hcell name type hcolumn, cell?_of_rowOfObject hcolumn hrow]

/-- A leap second with an offset at the end of the year 9999, a day before the year zero, an integer
    with its sign, a number in a column of texts, a column without a member and a word for true. -/
theorem rowOfObject_toJson_leap_second :
    let s : Schema := ⟨Named.ofList [("at", .dateTime), ("day", .date), ("n", .integer),
      ("name", .text), ("none", .text), ("ok", .boolean)]⟩
    let members : Members := [("at", .string "9999-12-31T23:59:60.5-01:00"),
      ("day", .string " -1-2-3 "), ("n", .string "+07"), ("name", .int 5), ("ok", .string "Yes")]
    ∃ row written, s.rowOfObject members = .ok row ∧ row.toJson = .object written ∧
      (Json.object written).compact = "\x7b\"at\":\"+10000-01-01T00:59:60.500\"," ++
        "\"day\":\"-0001-02-03\",\"n\":7,\"name\":\"5\",\"none\":null,\"ok\":true\x7d" ∧
      s.rowOfObject written = .ok row := by
  intro s members
  have hfloat : ∀ name, s.types.get? name ≠ some .float := by
    intro name h
    have hnone : s.types.entries.all (·.2 ≠ .float) = true := by decide
    exact of_decide_eq_true (List.all_eq_true.1 hnone _ (Named.get?_eq_some_iff.1 h)) rfl
  let row : Row := s.types.mapWithName fun name type => (cell? members name type).getD .null
  have hrow : s.rowOfObject members = .ok row := by
    have hfault : (s.fault? members).isNone = true := by decide +kernel
    rw [rowOfObject, Option.isNone_iff_eq_none.1 hfault]
  have hcompact : row.toJson.compact = "\x7b\"at\":\"+10000-01-01T00:59:60.500\"," ++
      "\"day\":\"-0001-02-03\",\"n\":7,\"name\":\"5\",\"none\":null,\"ok\":true\x7d" := by
    decide +kernel
  obtain ⟨written, hwritten, hagain⟩ := rowOfObject_toJson hfloat hrow
  exact ⟨row, written, hrow, hwritten, hwritten ▸ hcompact, hagain⟩

end Schema

end RowQuery
