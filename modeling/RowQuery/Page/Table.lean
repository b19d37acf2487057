import RowQuery.Filter.Evaluation
import RowQuery.Page.Source
import RowQuery.Sorting.Runs

/-!
# Tables in memory

A `Table` is a source of rows that holds them in a list. Sorting keeps rows that are not told apart
in the order in which they stand, and puts rows with an empty cell last in either direction; values
without an order are not told apart.

If the cells to sort by are comparable, their order is total, and sorting by insertion says what it
comes to. Otherwise, as for floats among which some are no numbers, the result hangs on the cells
that are compared, and rows are sorted by runs. Such a sort may break off, and the program with it:
this is the fault `TableFault.disorder`, which is no error that a caller could handle.
-/

namespace RowQuery

/-- Rows under a schema. -/
structure Table where
  schema : Schema
  rows : List Row
  /-- How filters are read. -/
  mode : Mode
deriving DecidableEq

/-- Why a query gets no rows from a table. -/
inductive TableFault
  /-- The filter or the order does not suit the table. -/
  | filter (e : FilterError)
  /-- The sort found that its cells are in no order, and broke off. -/
  | disorder
deriving DecidableEq

namespace Table

/-- Loads objects of JSON data, under the schema given or the one they suggest. -/
def ofObjects (schema? : Option Schema) (mode : Mode) (objects : List Members) :
    Except FilterError Table := do
  let schema := schema?.getD (Schema.infer objects)
  return ⟨schema, ← objects.mapM schema.rowOfObject, mode⟩

/-- The order of two cells in a sorted table. -/
def cellOrder (direction : Direction) (a b : Value) : Ordering :=
  match a.isNull, b.isNull with
  | true, true => .eq
  | true, false => .gt
  | false, true => .lt
  | false, false =>
    let order := (a.compare? b).getD .eq
    match direction with
    | .ascending => order
    | .descending => order.swap

/-- Whether a row has to stand in front of another. -/
def precedes (order : SortOrder) (a b : Row) : Bool :=
  cellOrder order.direction (a.value order.column) (b.value order.column) == .lt

/-- Whether the cells of a column that are not empty are of one type and every one of them has an
    order, at least with itself. -/
def comparable (column : String) (rows : List Row) : Bool :=
  let cells := (rows.map fun r => r.value column).filter fun v => !v.isNull
  cells.all fun v => v.type? = (cells.head?.bind Value.type?) && (v.compare? v).isSome

/-- The rows in order, unless the sort breaks off. -/
def sorted? (order : SortOrder) (rows : List Row) : Option (List Row) :=
  if comparable order.column rows then some (Sorting.insertion (precedes order) rows)
  else Sorting.sort? (precedes order) rows

/-- The rows that satisfy a filter, as they stand. -/
def select (t : Table) (filter? : Option RowFilter) : Except FilterError (List Row) := do
  let predicate? ← match filter? with
    | none => .ok none
    | some (.predicate p) => .ok (some p)
    | some (.text s) => Predicate.compile t.mode t.schema.resolve s
  return match predicate? with
    | none => t.rows
    | some p => (Matcher.ofPredicate p).filter t.rows

/-- Rows in the order asked for, if one is. -/
def arrange (t : Table) (rows : List Row) : Option SortOrder → Except TableFault (List Row)
  | none => .ok rows
  | some order =>
    if (t.schema.types.get? order.column).isNone then
      .error (.filter (.unknownField order.column))
    else match sorted? order rows with
      | some rows => .ok rows
      | none => .error .disorder

/-- The rows of a query's page. -/
def fetch (t : Table) (q : PageQuery) : Except TableFault (List Row) := do
  let rows ← (t.select q.filter?).mapError .filter
  let rows ← t.arrange rows q.order?
  let rest := rows.drop q.offset
  return match q.limit? with
    | none => rest
    | some n => rest.take n

/-- The number of rows that satisfy a filter. -/
def count (t : Table) (filter? : Option RowFilter) : Except FilterError Nat :=
  (t.select filter?).map List.length

/-- The table as a source of rows. -/
def source (t : Table) : Source Row TableFault where
  resolve := t.schema.resolve
  mode := t.mode
  count filter? := (t.count filter?).mapError .filter
  fetch := t.fetch

end Table

end RowQuery
