import RowQuery.Filter.Grouping
import RowQuery.Page.Link
import RowQuery.Page.Request

/-!
# Pages from a source of rows

A `Source` answers two questions: how many rows satisfy a filter, and which rows make up the page
that a query asks for. Before it is asked anything, the request is *prepared*: a filter that came
as text is compiled against the columns of the source, and the column to sort by must be one of
them. A page holds the rows, the count and the addresses of the pages around.
-/

namespace RowQuery

/-- Where rows of type `ρ` come from, with faults of type `ε`. -/
structure Source (ρ ε : Type) where
  /-- The columns that filters and orders are checked against. -/
  resolve : Resolver
  /-- How filters are read. -/
  mode : Mode
  count : Option RowFilter → Except ε Nat
  fetch : PageQuery → Except ε (List ρ)

/-- Why there is no page. -/
inductive PageError (ε : Type)
  /-- The request is refused. -/
  | request (e : RequestError)
  /-- The filter or the order of the request does not suit the source. -/
  | filter (e : FilterError)
  /-- The source failed. -/
  | source (e : ε)
deriving DecidableEq

/-- The text of an error, given that of a fault of the source. -/
def PageError.message {ε : Type} (fault : ε → String) : PageError ε → String
  | request e => e.message
  | filter e => e.message
  | source e => "query execution failed: " ++ fault e

/-- One page of rows. -/
structure Page (ρ : Type) where
  /-- How many rows there are on all pages. -/
  count : Nat
  next? : Option String
  prev? : Option String
  rows : List ρ
deriving DecidableEq

namespace PageRequest

variable {ρ ε : Type}

/-- The query of a request with its filter compiled, once filter and order suit the source. -/
def prepare (r : PageRequest) (source : Source ρ ε) (filter? : Option RowFilter) :
    Except FilterError PageQuery := do
  let query := r.query filter?
  let compiled? ← match query.filter? with
    | some (.text s) =>
      (Predicate.compile source.mode source.resolve s).map fun p? => p?.map RowFilter.predicate
    | other => .ok other
  match query.order? with
  | some order =>
    if (source.resolve order.column).isNone then throw (.unknownField order.column)
  | none => pure ()
  return { query with filter? := compiled? }

/-- The page that a request asks for. -/
def page (r : PageRequest) (source : Source ρ ε) (filter? : Option RowFilter) :
    Except (PageError ε) (Page ρ) := do
  let query ← (r.prepare source filter?).mapError .filter
  let count ← (source.count query.filter?).mapError .source
  let rows ← (source.fetch query).mapError .source
  return { count, next? := r.next? count, prev? := r.prev?, rows }

end PageRequest

/-- The navigation of a page as headers. -/
def Page.headers {ρ : Type} (p : Page ρ) : LinkHeaders :=
  .ofUrls p.count p.prev? p.next?

end RowQuery
