import RowQuery.Json.Writer
import RowQuery.Page.Source
import RowQuery.Report.Filter

/-!
# Reports on pages

A page of rows is shown as a table under the names of its columns, with every column as wide as its
widest cell, and a summary below it. The navigation headers of a page are shown as they would stand
in a response.
-/

namespace RowQuery.Report

/-- What a table shows of a row's value in a column. -/
def cellText (row : Row) (column : String) : List Char :=
  truncate maxCellWidth (row.value column).cell

/-- The width of the `i`-th column: that of its name or of its widest cell. -/
def columnWidth (name : String) (cells : List (List Char)) : Nat :=
  cells.foldl (fun w c => max w c.length) name.toList.length

/-- The cells of a line in their columns, two blanks apart, without blanks at the end. -/
def joinCells (widths : List Nat) (cells : List (List Char)) : List Char :=
  Text.trimEnd (joinText "  ".toList (List.zipWith padRight widths cells))

/-- The lines of a table of rows. -/
def rowLines (colour : Bool) (columns : List String) (rows : List Row) : List (List Char) :=
  if rows.isEmpty then ["No rows found.".toList]
  else
    let widths := columns.map fun c => columnWidth c (rows.map (cellText · c))
    Style.dim.paint colour (joinCells widths (columns.map String.toList)) ::
      rows.map fun r => joinCells widths (columns.map (cellText r))

/-- The report on a page. -/
def pageText (colour : Bool) (columns : List String) (p : Page Row) : List Char :=
  let summary := Decimal.natText p.rows.length ++ " of ".toList ++ Decimal.natText p.count ++
    " rows".toList
  let link (label : String) (url : String) := label.toList ++ url.toList
  unlines (rowLines colour columns p.rows ++ [[], Style.dim.paint colour summary] ++
    (p.prev?.map (link "prev: ")).toList ++ (p.next?.map (link "next: ")).toList)

/-- A page as JSON, given how a row is written. -/
def pageJson {ρ : Type} (row : ρ → Json) (p : Page ρ) : Json :=
  .object [("count", .int p.count), ("next", .ofText? p.next?), ("prev", .ofText? p.prev?),
    ("data", .array (p.rows.map row))]

/-- Navigation headers as JSON. -/
def headersJson (h : LinkHeaders) : Json :=
  .object [("total_count", .int h.totalCount), ("links", .array (h.links.map .string))]

/-- Navigation headers, each on its line. Those without content are left out. -/
def headersText (h : LinkHeaders) : List Char :=
  unlines ((h.pairs.filter (·.2 ≠ "")).map fun (name, value) =>
    name.toList ++ ':' :: ' ' :: value.toList)

end RowQuery.Report
