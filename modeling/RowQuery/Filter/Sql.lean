import RowQuery.Filter.Predicate

/-!
# Predicates as SQL

A predicate is rendered as the condition of a query with bound parameters. Columns are quoted names;
no value ever enters the text. A `Writer` passes through the predicate once, from left to right: at
each value it counts on, keeps the value and writes the mark of its place. It counts in a machine
word, which starts over at zero behind the largest one, as in a build of the program that does not
check for overflow.
-/

namespace RowQuery

namespace Sql

/-- How the place of a value is marked. -/
inductive Style
  /-- By a dollar sign and the number of the value. -/
  | numbered
  /-- By a question mark. -/
  | positional
deriving DecidableEq, Repr

/-- A column as a quoted name, each quote in it doubled. -/
def identifier (name : String) : List Char :=
  '"' :: name.toList.flatMap (fun c => if c = '"' then ['"', '"'] else [c]) ++ ['"']

/-- The mark of the `n`-th value. -/
def mark (style : Style) (n : Nat) : List Char :=
  match style with
  | .numbered => '$' :: Decimal.natText n
  | .positional => ['?']

/-! ## Writers -/

/-- What is kept while a condition is written. -/
structure Writer where
  style : Style
  /-- The number of the place written last. -/
  last : UInt64
  /-- The values of the places written so far, in order. -/
  parameters : List Value

/-- Writes a part of a condition. -/
abbrev Writing := StateM Writer (List Char)

/-- Writes the place of a value and keeps the value. -/
def bindValue (v : Value) : Writing :=
  modifyGet fun w =>
    let w := { w with last := w.last + 1, parameters := w.parameters ++ [v] }
    (mark w.style w.last.toNat, w)

/-- The sign between a column and one value. -/
def sign : Operator → String
  | .gt => ">"
  | .gte => ">="
  | .lt => "<"
  | .lte => "<="
  | .like => "LIKE"
  | _ => "="

/-- Writes a comparison, or something else if the operand does not suit the operator. -/
def comparisonOr (fallback : Writing) (c : Comparison) : Writing :=
  let column := identifier c.column
  match c.operator, c.operand with
  | .is, .scalar .null => return column ++ " IS NULL".toList
  | .is, .scalar (.bool true) => return column ++ " IS TRUE".toList
  | .is, .scalar (.bool false) => return column ++ " IS FALSE".toList
  | .like, .list vs => do
    let alternatives ← vs.mapM fun v => return column ++ " LIKE ".toList ++ (← bindValue v)
    return '(' :: joinText " OR ".toList alternatives ++ [')']
  | .isIn, .list vs => do
    let places ← vs.mapM bindValue
    return column ++ " IN (".toList ++ joinText ", ".toList places ++ [')']
  | .between, .range low high => do
    let low ← bindValue low
    let high ← bindValue high
    return column ++ " BETWEEN ".toList ++ low ++ " AND ".toList ++ high
  | op, .scalar v => return column ++ ' ' :: (sign op).toList ++ ' ' :: (← bindValue v)
  | _, _ => fallback

/-- Writes a comparison. An operand that does not suit its operator is never satisfied. -/
def comparison (c : Comparison) : Writing :=
  comparisonOr (return "FALSE".toList) c

/-- Writes a predicate. -/
def predicate : Predicate → Writing
  | .compare c => comparison c
  | .and l r => return '(' :: (← predicate l) ++ " AND ".toList ++ (← predicate r) ++ [')']
  | .or l r => return '(' :: (← predicate l) ++ " OR ".toList ++ (← predicate r) ++ [')']
  | .not p => return "NOT (".toList ++ (← predicate p) ++ [')']

end Sql

/-- A rendered condition with the values to bind. -/
structure SqlFragment where
  text : String
  parameters : List Value

namespace SqlFragment

/-- Renders a predicate for a query that has places up to the number `start` already. -/
def ofPredicate (style : Sql.Style) (start : UInt64) (p : Predicate) : SqlFragment :=
  let (text, writer) := (Sql.predicate p).run ⟨style, start, []⟩
  ⟨String.ofList text, writer.parameters⟩

/-- A rendered condition as JSON. -/
def toJson (f : SqlFragment) : Json :=
  .object [("sql", .string f.text), ("params", .array (f.parameters.map Value.toJson))]

end SqlFragment

end RowQuery
