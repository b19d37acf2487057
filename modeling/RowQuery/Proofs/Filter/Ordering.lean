import Mathlib.Logic.ExistsUnique
import RowQuery.Proofs.Filter.Cells

/-!
# Filters that ask for an order

Five operators ask for the order of a cell and a literal. On a column whose type is not that of
floats, what is loaded into the cell and what is read from the literal are values of that type, and
two such values always have an order. So the filters for "less", "equal" and "greater" part the rows
whose cell is not empty among them, and the other two are the complements of the first and the last.
An empty cell has no order, and none of the five finds it.

* `partition_admits`: of any one order, what the operators make of it;
* `accepts_ordering`: the comparisons in terms of the order of their values;
* `Predicate.compile_orderFilter`: what the filters compile to;
* `orderings_partition`: how they part the rows.
-/

namespace RowQuery

namespace Operator

/-- The operators that ask for the order of a value and the operand. -/
def orderings : List Operator :=
  [lt, lte, eq, gte, gt]

/-- Whether an operator is content with an order of a value and the operand. -/
def admits : Operator → Ordering → Bool
  | lt, o => o == .lt
  | lte, o => o != .gt
  | eq, o => o == .eq
  | gte, o => o != .lt
  | gt, o => o == .gt
  | _, _ => false

end Operator

open Operator (orderings)

/-- Exactly one of "less", "equal" and "greater" holds, "at least" where "less" does not, and
    "at most" where "greater" does not. -/
structure Partition (holds : Operator → Prop) : Prop where
  one : ∃! op, op ∈ [.lt, .eq, .gt] ∧ holds op
  gte : holds .gte ↔ ¬ holds .lt
  lte : holds .lte ↔ ¬ holds .gt

theorem Partition.congr {holds holds' : Operator → Prop} (h : ∀ op ∈ orderings, (holds' op ↔ holds op))
    (hpart : Partition holds) : Partition holds' where
  one := by
    have hsub : [Operator.lt, .eq, .gt] ⊆ orderings := by decide
    obtain ⟨op, ⟨hop, hholds⟩, hunique⟩ := hpart.one
    exact ⟨op, ⟨hop, (h op (hsub hop)).2 hholds⟩, fun op' ⟨hop', hholds'⟩ =>
      hunique op' ⟨hop', (h op' (hsub hop')).1 hholds'⟩⟩
  gte := by
    rw [h .gte (by decide), h .lt (by decide)]
    exact hpart.gte
  lte := by
    rw [h .lte (by decide), h .gt (by decide)]
    exact hpart.lte

/-- An order is admitted by one of "less", "equal" and "greater". -/
theorem partition_admits (o : Ordering) : Partition fun op => op.admits o = true := by
  constructor
  · cases o with
    | lt => exact ⟨.lt, by decide, by simp [Operator.admits]⟩
    | eq => exact ⟨.eq, by decide, by simp [Operator.admits]⟩
    | gt => exact ⟨.gt, by decide, by simp [Operator.admits]⟩
  · cases o <;> decide
  · cases o <;> decide

/-- A comparison with one value holds if there is an order and the operator admits it. -/
theorem accepts_ordering {op : Operator} (hop : op ∈ orderings) (column : String) (w : Value)
    (row : Row) :
    (Matcher.ofPredicate (.compare ⟨column, op, .scalar w⟩)).accepts row = true ↔
      ∃ o, (row.value column).compare? w = some o ∧ op.admits o = true := by
  rw [Matcher.accepts_eq_holds, Predicate.holds, Predicate.eval, ← Option.any_eq_true]
  simp only [orderings, List.mem_cons, List.not_mem_nil, or_false] at hop
  rcases hop with rfl | rfl | rfl | rfl | rfl
  all_goals
    simp only [Comparison.eval, Comparison.evalOr]
    rcases (row.value column).compare? w with _ | (_ | _ | _) <;> exact Iff.rfl

/-- The filter that asks for the order of a column and a literal. -/
def orderFilter (column : String) (op : Operator) (literal : String) : String :=
  column ++ (":" ++ op.keyword ++ ":") ++ literal

/-- The filters read the literal alike, as a value of the column's type. -/
theorem Predicate.compile_orderFilter {resolve : Resolver} {field literal : String}
    {column : Column} {op : Operator} (hop : op ∈ orderings) (hf : IsFieldName field)
    (hcolumn : resolve field = some column) (hliteral : Token.IsValue literal.toList)
    (mode : Mode) :
    compile mode resolve (orderFilter field op literal) =
      (Operand.readValue column column.type
        (Literal.unescape (Literal.stripQuotes literal.toList).1)).map fun v =>
          some (.compare ⟨column.name, op, .scalar v⟩) := by
  have hread : Operand.read column op literal =
      (Operand.readValue column column.type
        (Literal.unescape (Literal.stripQuotes literal.toList).1)).map .scalar := by
    simp only [orderings, List.mem_cons, List.not_mem_nil, or_false] at hop
    rcases hop with rfl | rfl | rfl | rfl | rfl <;> rfl
  have hkey : ":" ++ op.key false ++ ":" = ":" ++ op.keyword ++ ":" := rfl
  rw [orderFilter, compile_clause hkey hf hcolumn nofun hliteral, hread]
  generalize Operand.readValue column column.type
    (Literal.unescape (Literal.stripQuotes literal.toList).1) = v
  cases v <;> rfl

/-- What is read from a literal is readable. -/
theorem Operand.readable_of_readValue {column : Column} {t : ColumnType} {s : List Char}
    {v : Value} (ht : t ≠ .float) (h : readValue column t s = .ok v) : v.Readable t := by
  rw [readValue] at h
  cases hr : t.read? s with
  | none =>
    rw [hr] at h
    cases h
  | some w =>
    rw [hr] at h
    cases h
    exact ColumnType.readable_of_read? ht hr

variable {schema : Schema} {column literal : String} {type : ColumnType}

/-- If the filter for equality with a literal compiles, so do the four others, in any mode. On a row
    that is loaded under the schema none of the five holds if the cell is empty, and else they part
    the rows. -/
theorem orderings_partition (hf : IsFieldName column)
    (hcolumn : schema.types.get? column = some type) (htype : type ≠ .float)
    (hliteral : Token.IsValue literal.toList) {mode : Mode} {p? : Option Predicate}
    (hcompiles : Predicate.compile mode schema.resolve (orderFilter column .eq literal) = .ok p?) :
    ∃ p : Operator → Predicate,
      (∀ op ∈ orderings, ∀ mode',
        Predicate.compile mode' schema.resolve (orderFilter column op literal) =
          .ok (some (p op))) ∧
      ∀ members row, schema.rowOfObject members = .ok row →
        (row.value column = .null →
          ∀ op ∈ orderings, (Matcher.ofPredicate (p op)).accepts row = false) ∧
        (row.value column ≠ .null →
          Partition fun op => (Matcher.ofPredicate (p op)).accepts row = true) := by
  have hresolve := Schema.resolve_eq hcolumn
  rw [Predicate.compile_orderFilter (by decide) hf hresolve hliteral] at hcompiles
  obtain ⟨v, hv, -⟩ := map_eq_ok.1 hcompiles
  refine ⟨fun op => .compare ⟨column, op, .scalar v⟩, fun op hop mode' => ?_,
    fun members row hrow => ⟨fun hnull op hop => ?_, fun hnull => ?_⟩⟩
  · rw [Predicate.compile_orderFilter hop hf hresolve hliteral, hv]
    rfl
  · rw [Bool.eq_false_iff, ne_eq, accepts_ordering hop, hnull]
    rintro ⟨o, ho, -⟩
    cases ho
  · -- Both values are of the column's type, so they have an order.
    have hcell := Schema.readable_of_rowOfObject hcolumn htype hrow hnull
    obtain ⟨o, ho⟩ := hcell.exists_compare? (Operand.readable_of_readValue htype hv)
    refine (partition_admits o).congr fun op hop => ?_
    rw [accepts_ordering hop, ho]
    simp

/-- A literal with an escape, which is a leap second; the midnight behind it, given as a day; and an
    object without a member for the column. -/
theorem orderings_partition_leap_second :
    let schema : Schema := ⟨Named.ofList [("at", .dateTime)]⟩
    let literal := "'2016-12-31T23:59:60\\+00:00'"
    ∃ p : Operator → Predicate,
      (∀ op ∈ orderings, ∀ mode,
        Predicate.compile mode schema.resolve (orderFilter "at" op literal) = .ok (some (p op))) ∧
      (∃ row, schema.rowOfObject [("at", .string "2017-01-01")] = .ok row ∧
        row.value "at" ≠ .null ∧
        Partition fun op => (Matcher.ofPredicate (p op)).accepts row = true) ∧
      ∃ row, schema.rowOfObject [] = .ok row ∧
        ∀ op ∈ orderings, (Matcher.ofPredicate (p op)).accepts row = false := by
  intro schema literal
  have hcolumn : schema.types.get? "at" = some .dateTime := rfl
  have htake : Token.takeValue? literal.toList = some literal.toList := by decide
  have hliteral := (Token.isValue_of_takeValue? htake).1
  let read? := ColumnType.dateTime.read? (Literal.unescape (Literal.stripQuotes literal.toList).1)
  obtain ⟨v, hv⟩ : ∃ v, read? = some v := by
    have hread : read?.isSome = true := by decide +kernel
    exact Option.isSome_iff_exists.1 hread
  have hcompiles : Predicate.compile .strict schema.resolve (orderFilter "at" .eq literal) =
      .ok (some (.compare ⟨"at", .eq, .scalar v⟩)) := by
    rw [Predicate.compile_orderFilter (by decide) (by decide) (Schema.resolve_eq hcolumn) hliteral,
      Operand.readValue]
    simp only [show ColumnType.dateTime.read? _ = some v from hv]
    rfl
  obtain ⟨p, hp, hrows⟩ := orderings_partition (by decide) hcolumn (by decide) hliteral hcompiles
  have hrow : ∀ members, (schema.fault? members).isNone = true →
      ∃ row, schema.rowOfObject members = .ok row := by
    intro members hfault
    rw [Schema.rowOfObject, Option.isNone_iff_eq_none.1 hfault]
    exact ⟨_, rfl⟩
  obtain ⟨row, hload⟩ := hrow [("at", .string "2017-01-01")] (by decide +kernel)
  obtain ⟨row', hload'⟩ := hrow [] (by decide +kernel)
  have hday : (Calendar.readDateTime? (Text.trim "2017-01-01".toList)).isSome = true := by
    decide +kernel
  obtain ⟨t, ht⟩ := Option.isSome_iff_exists.1 hday
  have hcell : Schema.cell? [("at", .string "2017-01-01")] "at" .dateTime = some (.dateTime t) :=
    congrArg (Option.map Value.dateTime) ht
  have hfull : row.value "at" ≠ .null := by
    rw [Schema.value_rowOfObject hcolumn hload, hcell]
    rintro ⟨⟩
  have hempty : row'.value "at" = .null := Schema.value_rowOfObject hcolumn hload'
  exact ⟨p, hp, ⟨row, hload, hfull, (hrows _ row hload).2 hfull⟩, row', hload',
    (hrows _ row' hload').1 hempty⟩

end RowQuery
