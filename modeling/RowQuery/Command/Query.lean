import RowQuery.Command.Config
import RowQuery.Command.Input
import RowQuery.Page.Table
import RowQuery.Report.Page

/-!
# Querying a data file

The data become a table in memory, and the options become one page request against it. A request
made from options gets an address that carries them, so that the links on its page lead on within
the same query.
-/

namespace RowQuery

/-- The address with a parameter set, if there is a value for it. -/
def Url.setGiven (u : Url) (name : String) (value? : Option String) : Url :=
  match value? with
  | some value => u.set name value
  | none => u

namespace QueryOptions

/-- The parameters that the options give. -/
def parameters (q : QueryOptions) : PageParameters where
  offset? := q.offset?
  limit? := q.limit?
  filter? := q.filter?
  sort? := q.sort?
  descending? := if q.ascending then some false else none

/-- The address that carries parameters. -/
def linkUrl (p : PageParameters) : Url :=
  let flagText (b : Bool) := if b then "true" else "false"
  (((((Url.parse "/").setGiven "filter" p.filter?).setGiven "sort" p.sort?).setGiven "desc"
    (p.descending?.map flagText)).setGiven "offset" (p.offset?.map numberText)).setGiven "limit"
    (p.limit?.map numberText)

/-- The page request that the options make: that of their address, if they give one. -/
def request (q : QueryOptions) (settings : PageSettings) : Except RequestError PageRequest :=
  match q.url? with
  | some url => PageRequest.ofUrl settings url
  | none => PageRequest.ofParameters settings (linkUrl q.parameters).render q.parameters

end QueryOptions

/-- The page as JSON with its headers. -/
def linkedPageJson (p : Page Row) : Json :=
  .object [("data", .array (p.rows.map Row.toJson)),
    ("headers", .object [("links", .array (p.headers.links.map .string)),
      ("total_count", .int p.headers.totalCount)])]

/-- The remark on a table that has been loaded. -/
def loadedRemark (t : Table) : String :=
  let column (c : Column) := c.name.toList ++ ':' :: c.type.name.toList
  "Loaded " ++ FilterError.count t.rows.length ++ " rows (" ++
    String.ofList (joinText ", ".toList (t.schema.columns.map column)) ++ ")"

/-- How a query fails that gets no page from a table. -/
def Failure.ofPage : PageError TableFault → Failure
  | .request e => .error (.page (.request e))
  | .filter e => .error (.page (.filter e))
  | .source (.filter e) => .error (.page (.source e))
  | .source .disorder =>
    .crash "user-provided comparison function does not correctly implement a total order"

variable {m : Type → Type} [Monad m]

/-- Shows a page, with its headers or with its own links. -/
def showPage (ctx : Context) (links : Bool) (columns : List String) (p : Page Row) :
    Action m Unit :=
  if links then
    ctx.display (linkedPageJson p)
      (Report.headersText p.headers ++ '\n' ::
        Report.pageText ctx.colour columns { p with next? := none, prev? := none })
  else ctx.display (Report.pageJson Row.toJson p) (Report.pageText ctx.colour columns p)

/-- Answers a query from a table. -/
def queryTable (ctx : Context) (q : QueryOptions) (t : Table) : Action m Unit := do
  let request ← .ofExcept ((q.request ctx.page).mapError fun e => .ofPage (.request e))
  let page ← .ofExcept ((request.page t.source none).mapError .ofPage)
  showPage ctx q.links (t.schema.columns.map (·.name)) page

variable [Files m]

/-- Loads the table of a query. -/
def loadTable (ctx : Context) (q : QueryOptions) : m (Except CommandError Table) := do
  match ← loadSchema? q.schema? with
  | .error e => return .error e
  | .ok schema? => match ← loadData q.data with
    | .error e => return .error e
    | .ok objects => return (Table.ofObjects schema? ctx.mode objects).mapError .filter

/-- Runs a query. -/
def runQuery (ctx : Context) (q : QueryOptions) : Action m Unit := do
  let t ← .ofResult (← .files (loadTable ctx q))
  ctx.remark (loadedRemark t)
  queryTable ctx q t

end RowQuery
