import RowQuery.Filter.Token

/-!
# Clauses

A `Clause` is a token whose parts have been understood. A clause that names no field goes on with
the field of the clause before, so the first clause must name one, and so must every clause with a
connector, which joins fields.

A filter is read leniently, passing over input that is part of no clause, or strictly, refusing it.
-/

namespace RowQuery

/-- One condition of a filter, not yet tied to a column. -/
structure Clause where
  /-- What joins the field to the one before, if it is said. -/
  connector? : Option Connector
  /-- The field, or none to go on with the field of the clause before. -/
  field? : Option String
  /-- What joins the condition to the one before within a field. -/
  separator : Connector
  /-- Whether the operator is negated. -/
  negated : Bool
  operator : Operator
  /-- The operand as it is written, with its quotes. -/
  value : String
deriving DecidableEq, Repr

/-- How to treat input that is part of no clause. -/
inductive Mode
  /-- Pass over it. -/
  | lenient
  /-- Refuse it. -/
  | strict
deriving DecidableEq, Repr

/-- What a scan has found, if the mode allows it. -/
def Scan.checked (found : Scan) (mode : Mode) : Except FilterError Scan :=
  match mode, found.skipped with
  | .strict, gap :: _ => .error (.unrecognized gap.fragment gap.position)
  | _, _ => .ok found

namespace Clause

/-- The operator as it is written, with its tilde. -/
def key (c : Clause) : String :=
  c.operator.key c.negated

/-- The clause that a token stands for. -/
def ofToken (t : Token) : Except FilterError Clause := do
  let connector? ← if t.connector = "" then .ok none else (Connector.read t.connector).map some
  let field? := if t.field = "" then none else some t.field
  if connector?.isSome && field?.isNone then throw (.missingField t.position)
  let separator ← Connector.read t.separator
  let operator ← Operator.read t.operator
  if t.tilde ≠ "" ∧ t.tilde ≠ "~" then throw (.unknownOperator (t.tilde ++ operator.keyword))
  return { connector?, field?, separator, negated := t.tilde = "~", operator, value := t.value }

/-- The clauses that tokens stand for. The first must name a field. -/
def ofTokens : List Token → Except FilterError (List Clause)
  | [] => .ok []
  | t :: ts => do
    let c ← ofToken t
    if c.field?.isNone then throw (.missingField t.position)
    return c :: (← ts.mapM ofToken)

/-- Reads the clauses of a filter. -/
def parse (mode : Mode) (s : String) : Except FilterError (List Clause) := do
  ofTokens (← (scan s).checked mode).tokens

end Clause

end RowQuery
