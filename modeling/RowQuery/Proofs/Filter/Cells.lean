import RowQuery.Proofs.Filter.Matching
import RowQuery.Proofs.Filter.Quoting
import RowQuery.Proofs.Rows.Loading

/-!
# Rows found by what is shown of them

What the cell of a table shows of a value can be put between quotes and asked for. The filter is
read in any mode, its operand is the value that was shown, and the rows it accepts are those that
hold this value in the column.

* `Predicate.compile_cellFilter`: what the filter compiles to;
* `cell_finds_rows`: the rows that it accepts.
-/

namespace RowQuery

open Literal (escape quoted)

theorem Schema.resolve_eq {s : Schema} {column : String} {type : ColumnType}
    (hcolumn : s.types.get? column = some type) : s.resolve column = some ⟨column, type⟩ := by
  rw [resolve, hcolumn]
  rfl

/-- The filter for what the cell of a column shows of a value. -/
def cellFilter (column : String) (v : Value) : String :=
  column ++ ":eq:" ++ String.ofList (quoted '"' (escape ['"'] v.cell))

/-- The filter for a cell asks for the value that the cell shows. -/
theorem Predicate.compile_cellFilter {resolve : Resolver} {column : String} {type : ColumnType}
    {v : Value} (hf : IsFieldName column) (hcolumn : resolve column = some ⟨column, type⟩)
    (hv : v.Readable type) (mode : Mode) :
    compile mode resolve (cellFilter column v) =
      .ok (some (.compare ⟨column, .eq, .scalar v⟩)) := by
  have hquote : '"' ∈ ['"', '\''] := List.mem_cons_self
  have hw : ":" ++ Operator.eq.key false ++ ":" = ":eq:" := by decide
  rw [cellFilter, compile_clause hw hf hcolumn nofun (Literal.isValue_quoted hquote _),
    Operand.read_quoted_eq hquote, Operand.readValue, ColumnType.read?_cell hv]
  rfl

variable {schema : Schema} {column : String} {type : ColumnType} {members : Members} {row : Row}

/-- A row is found by what is shown of a value of it, unless that is a float: the filter for the
    cell compiles, and among all rows of the schema it accepts those that hold the value in the
    column. -/
theorem cell_finds_rows (hf : IsFieldName column) (hcolumn : schema.types.get? column = some type)
    (htype : type ≠ .float) (hrow : schema.rowOfObject members = .ok row)
    (hnull : row.value column ≠ .null) (mode : Mode) :
    ∃ p, Predicate.compile mode schema.resolve (cellFilter column (row.value column)) =
        .ok (some p) ∧
      ∀ members' row', schema.rowOfObject members' = .ok row' →
        ((Matcher.ofPredicate p).accepts row' = true ↔ row'.value column = row.value column) := by
  have hv := Schema.readable_of_rowOfObject hcolumn htype hrow hnull
  refine ⟨_, Predicate.compile_cellFilter hf (Schema.resolve_eq hcolumn) hv mode,
    fun members' row' hrow' => ?_⟩
  have hholds : (Predicate.compare ⟨column, .eq, .scalar (row.value column)⟩).holds row' =
      ((row'.value column).compare? (row.value column) == some .eq) := rfl
  rw [Matcher.accepts_eq_holds, hholds, beq_iff_eq]
  by_cases hnull' : row'.value column = .null
  · -- An empty cell is equal to nothing.
    rw [hnull']
    exact iff_of_false nofun hnull.symm
  · exact Value.compare?_eq_some_eq (Schema.readable_of_rowOfObject hcolumn htype hrow' hnull') hv

/-- A leap second with an offset, at the end of the year 9999: it is shown without the offset, in a
    year that carries its sign. -/
theorem cell_finds_rows_leap_second :
    let schema : Schema := ⟨Named.ofList [("é", .dateTime)]⟩
    let filter := "é:eq:\"+10000-01-01T00:59:60.500\""
    ∃ row p, schema.rowOfObject [("é", .string "9999-12-31T23:59:60.5-01:00")] = .ok row ∧
      row.value "é" ≠ .null ∧ Predicate.compile .strict schema.resolve filter = .ok (some p) ∧
      ∀ members' row', schema.rowOfObject members' = .ok row' →
        ((Matcher.ofPredicate p).accepts row' = true ↔ row'.value "é" = row.value "é") := by
  intro schema filter
  let members : Members := [("é", .string "9999-12-31T23:59:60.5-01:00")]
  let t : Calendar.DateTime :=
    ⟨⟨10000, 1, 1, by decide, by decide⟩, 3599, 1500000000, by decide, by decide⟩
  have hcolumn : schema.types.get? "é" = some .dateTime := rfl
  have hread : Calendar.readDateTime? (Text.trim "9999-12-31T23:59:60.5-01:00".toList) =
      some t := by
    decide +kernel
  have hcell : Schema.cell? members "é" .dateTime = some (.dateTime t) :=
    congrArg (Option.map Value.dateTime) hread
  have hfault : schema.fault? members = none := by
    refine List.findSome?_eq_none_iff.2 fun c hc => ?_
    obtain rfl : c = ⟨"é", .dateTime⟩ := List.mem_singleton.1 hc
    simp only [hcell]
    rfl
  obtain ⟨row, hrow⟩ : ∃ row, schema.rowOfObject members = .ok row := by
    rw [Schema.rowOfObject, hfault]
    exact ⟨_, rfl⟩
  have hvalue : row.value "é" = .dateTime t := by
    rw [Schema.value_rowOfObject hcolumn hrow, hcell]
    rfl
  have hfilter : cellFilter "é" (.dateTime t) = filter := by
    decide +kernel
  obtain ⟨p, hp, hrows⟩ := cell_finds_rows (by decide) hcolumn (by decide) hrow
    (by rw [hvalue]; simp) .strict
  rw [hvalue, hfilter] at hp
  exact ⟨row, p, hrow, by rw [hvalue]; simp, hp, hrows⟩

end RowQuery
