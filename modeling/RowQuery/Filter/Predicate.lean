import RowQuery.Filter.Operator
import RowQuery.Json.Basic
import RowQuery.Value.Reading
import RowQuery.Value.Text

/-!
# Predicates

A compiled filter is a `Predicate`: comparisons of columns with operands, joined by "and", "or" and
"not". A predicate names its columns and not the fields they were found by. Its text shows the
structure in brackets; a comparison whose operand does not suit its operator, which no filter
compiles to, is shown as a debugging listing.
-/

namespace RowQuery

/-- What a column is compared with. -/
inductive Operand
  /-- One value. -/
  | scalar (v : Value)
  /-- Any of several values. -/
  | list (vs : List Value)
  /-- The values from one to another, both included. -/
  | range (low high : Value)
deriving DecidableEq

/-- A comparison of a column with an operand. -/
structure Comparison where
  column : String
  operator : Operator
  operand : Operand
deriving DecidableEq

/-- A condition on rows. -/
inductive Predicate
  | compare (c : Comparison)
  | and (left right : Predicate)
  | or (left right : Predicate)
  | not (inner : Predicate)
deriving DecidableEq

namespace Connector

/-- Joins two predicates. -/
def join : Connector → Predicate → Predicate → Predicate
  | .and => .and
  | .or => .or

end Connector

/-- Texts with a separator between them. -/
def joinText (separator : List Char) : List (List Char) → List Char
  | [] => []
  | [s] => s
  | s :: ss => s ++ separator ++ joinText separator ss

namespace Operand

/-- The values of an operand. -/
def values : Operand → List Value
  | scalar v => [v]
  | list vs => vs
  | range low high => [low, high]

/-- The operand in a debugging listing. -/
def listing : Operand → List Char
  | scalar v => "Scalar(".toList ++ v.listing ++ [')']
  | list vs => "List([".toList ++ joinText ", ".toList (vs.map Value.listing) ++ "])".toList
  | range low high =>
    "Range(".toList ++ low.listing ++ ", ".toList ++ high.listing ++ [')']

/-- The operand as JSON. -/
def toJson : Operand → Json
  | scalar v => .object [("scalar", v.toJson)]
  | list vs => .object [("list", .array (vs.map Value.toJson))]
  | range low high => .object [("range", .array [low.toJson, high.toJson])]

end Operand

namespace Comparison

/-- The comparison as text, or another text if the operand does not suit the operator. -/
def textOr (fallback : List Char) (c : Comparison) : List Char :=
  let column := c.column.toList
  let list (vs : List Value) := '(' :: joinText ", ".toList (vs.map Value.literal) ++ [')']
  match c.operator, c.operand with
  | .between, .range low high =>
    column ++ " BETWEEN ".toList ++ low.literal ++ " AND ".toList ++ high.literal
  | .isIn, .list vs => column ++ " IN ".toList ++ list vs
  | .like, .list vs => column ++ " LIKE ANY ".toList ++ list vs
  | op, .scalar v => column ++ ' ' :: op.sign.toList ++ ' ' :: v.literal
  | _, _ => fallback

/-- The comparison as a debugging listing. -/
def listing (c : Comparison) : List Char :=
  c.column.toList ++ ' ' :: c.operator.title.toList ++ ' ' :: c.operand.listing

/-- The comparison as text. -/
def text (c : Comparison) : List Char :=
  c.textOr c.listing

/-- The comparison as JSON. -/
def toJson (c : Comparison) : Json :=
  .object [("column", .string c.column), ("op", .string c.operator.keyword),
    ("operand", c.operand.toJson)]

end Comparison

namespace Predicate

/-- The predicate as text. -/
def text : Predicate → List Char
  | compare c => c.text
  | and l r => '(' :: l.text ++ " AND ".toList ++ r.text ++ [')']
  | or l r => '(' :: l.text ++ " OR ".toList ++ r.text ++ [')']
  | not p => "NOT ".toList ++ p.text

/-- The predicate as JSON. -/
def toJson : Predicate → Json
  | compare c => .object [("compare", c.toJson)]
  | and l r => .object [("and", .array [l.toJson, r.toJson])]
  | or l r => .object [("or", .array [l.toJson, r.toJson])]
  | not p => .object [("not", p.toJson)]

/-- Adds the columns of a predicate to columns already met. -/
def addColumns (met : List String) : Predicate → List String
  | compare c => if c.column ∈ met then met else met ++ [c.column]
  | and l r | or l r => r.addColumns (l.addColumns met)
  | not p => p.addColumns met

/-- The columns of a predicate, in the order of their first use. -/
def columns (p : Predicate) : List String :=
  p.addColumns []

end Predicate

end RowQuery
