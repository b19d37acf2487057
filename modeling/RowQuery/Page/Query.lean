import RowQuery.Filter.Predicate

/-!
# Bounded queries

What a request asks of a source of rows: which rows, in which order, from where and how many.
-/

namespace RowQuery

/-- Which rows are asked for. -/
inductive RowFilter
  /-- Those that satisfy a predicate. -/
  | predicate (p : Predicate)
  /-- Those that satisfy a filter that has not been compiled. -/
  | text (s : String)
deriving DecidableEq

/-- The direction of an order. -/
inductive Direction
  | ascending
  | descending
deriving DecidableEq, Repr

namespace Direction

/-- The direction that a flag asks for. -/
def ofDescending (descending : Bool) : Direction :=
  if descending then .descending else .ascending

/-- The short name of a direction. -/
def name : Direction → String
  | ascending => "asc"
  | descending => "desc"

end Direction

/-- An order of rows: by one column. -/
structure SortOrder where
  column : String
  direction : Direction
deriving DecidableEq, Repr

/-- A query for one page of rows. -/
structure PageQuery where
  /-- Which rows; all if there is no filter. -/
  filter? : Option RowFilter
  /-- How many rows to pass over. -/
  offset : Nat
  /-- How many rows to return at most; all if there is no limit. -/
  limit? : Option Nat
  /-- In which order; the source's own if there is none. -/
  order? : Option SortOrder
deriving DecidableEq

namespace RowFilter

/-- A row filter as JSON. -/
def toJson : RowFilter → Json
  | predicate p => .object [("predicate", p.toJson)]
  | text s => .object [("text", .string s)]

end RowFilter

end RowQuery
