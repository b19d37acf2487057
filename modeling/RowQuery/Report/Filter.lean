import RowQuery.Filter.Clause
import RowQuery.Filter.Sql
import RowQuery.Json.Writer
import RowQuery.Report.Layout

/-!
# Reports on filters

What there is to see of a filter on its way: its tokens with the input passed over, its clauses, and
the predicate it compiles to with the condition rendered from it. Each report comes as lines for a
reader and as JSON.
-/

namespace RowQuery.Report

/-- The widest cell of a table. -/
def maxCellWidth : Nat := 32

/-- The widest field in a table of tokens or clauses. -/
def maxFieldWidth : Nat := 16

/-! ## Tokens -/

/-- A line of the table of tokens. -/
def tokenLine (position connector field separator tilde operator value : List Char) : List Char :=
  columns [(5, position), (5, connector), (16, field), (4, separator), (4, tilde), (8, operator)]
    value

/-- The heading of the table of tokens. -/
def tokenHeading : List Char :=
  tokenLine "Pos".toList "Conj".toList "Field".toList "Sep".toList "Inv".toList "Operator".toList
    "Value".toList

/-- The lines on the tokens of a scan. -/
def tokenLines (colour : Bool) (tokens : List Token) : List (List Char) :=
  if tokens = [] then ["No tokens found.".toList]
  else Style.dim.paint colour tokenHeading :: tokens.map fun t =>
    tokenLine (Decimal.natText t.position) t.connector.toList
      (truncate maxFieldWidth t.field.toList) t.separator.toList t.tilde.toList
      t.operator.toList t.value.toList

/-- The lines on the input that a scan has passed over. -/
def skippedLines (colour : Bool) (skipped : List Skipped) : List (List Char) :=
  if skipped = [] then []
  else [] :: Style.yellow.paint colour "Skipped input:".toList :: skipped.map fun g =>
    ' ' :: ' ' :: padLeft 5 (Decimal.natText g.position) ++
      ' ' :: ' ' :: (Text.quoted g.fragment).toList

/-- The report on a scan. -/
def scanText (colour : Bool) (s : Scan) : List Char :=
  unlines (tokenLines colour s.tokens ++ skippedLines colour s.skipped)

/-- A token as JSON. -/
def tokenJson (t : Token) : Json :=
  .object [("conjunctive", .string t.connector), ("field_name", .string t.field),
    ("sep", .string t.separator), ("inverter", .string t.tilde), ("operator", .string t.operator),
    ("value", .string t.value), ("position", .int t.position)]

/-- Skipped input as JSON. -/
def skippedJson (g : Skipped) : Json :=
  .object [("fragment", .string g.fragment), ("position", .int g.position)]

/-- The report on a scan as JSON. -/
def scanJson (s : Scan) : Json :=
  .object [("tokens", .array (s.tokens.map tokenJson)),
    ("skipped", .array (s.skipped.map skippedJson))]

/-! ## Clauses -/

/-- The heading of the table of clauses. -/
def clauseHeading : List Char :=
  columns [(4, ['#']), (5, "Conj".toList), (16, "Field".toList), (4, "Sep".toList),
    (9, "Operator".toList)] "Value".toList

/-- The line on a clause, numbered from one. A negated operator stands out. -/
def clauseLine (colour : Bool) (n : Nat) (c : Clause) : List Char :=
  let connector := match c.connector? with
    | some k => [k.symbol]
    | none => []
  let field := match c.field? with
    | some name => truncate maxFieldWidth name.toList
    | none => "...".toList
  let operator := Style.red.paint (colour && c.negated) (padRight 9 c.key.toList)
  columns [(4, Decimal.natText n), (5, connector), (16, field), (4, [c.separator.symbol])]
    (operator ++ ' ' :: truncate maxCellWidth c.value.toList)

/-- The report on clauses. -/
def clausesText (colour : Bool) (cs : List Clause) : List Char :=
  if cs = [] then "No clauses found.\n".toList
  else unlines (Style.dim.paint colour clauseHeading ::
    cs.zipIdx.map fun (c, i) => clauseLine colour (i + 1) c)

/-- A clause as JSON. -/
def clauseJson (c : Clause) : Json :=
  .object [("conjunctive", .ofText? (c.connector?.map Connector.name)),
    ("field_name", .ofText? c.field?), ("sep", .string c.separator.name),
    ("inverted", .bool c.negated), ("operator", .string c.operator.keyword),
    ("value", .string c.value)]

/-- The report on clauses as JSON. -/
def clausesJson (cs : List Clause) : Json :=
  .array (cs.map clauseJson)

/-! ## Compiled filters -/

/-- What the report shows of a bound value: a text between quotes, anything else as in a table. -/
def parameterText (v : Value) : List Char :=
  match v with
  | .text _ => v.literal
  | v => v.cell

/-- The lines on a rendered condition. -/
def fragmentLines (colour : Bool) (f : SqlFragment) : List (List Char) :=
  (Style.bold.paint colour "WHERE:".toList ++ ' ' :: f.text.toList) ::
    if f.parameters.isEmpty then []
    else Style.bold.paint colour "Params:".toList :: f.parameters.zipIdx.map fun (v, i) =>
      ' ' :: ' ' :: padLeft 3 (Decimal.natText (i + 1)) ++ ' ' :: ' ' :: parameterText v

/-- The report on a compiled filter and the condition rendered from it. -/
def compiledText (colour : Bool) (p? : Option Predicate) (f? : Option SqlFragment) : List Char :=
  match p? with
  | none => "Empty filter: every row matches.\n".toList
  | some p =>
    let fragment := match f? with
      | some f => fragmentLines colour f
      | none => []
    unlines ((Style.bold.paint colour "Predicate:".toList ++ ' ' :: p.text) :: fragment)

/-- The report on a compiled filter as JSON. -/
def compiledJson (p? : Option Predicate) (f? : Option SqlFragment) : Json :=
  .object ([("expression", .ofText? (p?.map fun p => String.ofList p.text)),
    ("predicate", (p?.map Predicate.toJson).getD .null)] ++
    (f?.map fun f => ("sql", f.toJson)).toList)

end RowQuery.Report
