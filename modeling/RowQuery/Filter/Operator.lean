import RowQuery.Filter.Error

/-!
# Connectors and operators

The vocabulary of filters. A *connector* is a colon for "and" or a bar for "or". An *operator* is
one of nine words; four of them have a negated form, written with a tilde in front. What stands in
a filter for an operator, tilde and all, is its *key*.

* `Operator.ofKey?_key`: a key is read back, unless it negates an operator that has no negated form.
-/

namespace RowQuery

/-- How two conditions are joined. -/
inductive Connector
  | and
  | or
deriving DecidableEq, Repr

namespace Connector

/-- The mark of a connector. -/
def symbol : Connector → Char
  | and => ':'
  | or => '|'

/-- The name of a connector. -/
def name : Connector → String
  | and => "and"
  | or => "or"

/-- The connector that a mark stands for. -/
def ofSymbol? : Char → Option Connector
  | ':' => some and
  | '|' => some or
  | _ => none

/-- Reads a connector: its mark and nothing else. -/
def read (s : String) : Except FilterError Connector :=
  match s.toList with
  | [c] => match ofSymbol? c with
    | some k => .ok k
    | none => .error (.unknownConnector s)
  | _ => .error (.unknownConnector s)

@[simp] theorem ofSymbol?_symbol (k : Connector) : ofSymbol? k.symbol = some k := by
  cases k <;> rfl

theorem ofSymbol?_eq_some_iff {c : Char} {k : Connector} :
    ofSymbol? c = some k ↔ c = k.symbol := by
  refine ⟨fun h => ?_, fun h => h ▸ ofSymbol?_symbol k⟩
  unfold ofSymbol? at h
  split at h <;> simp_all [symbol] <;> subst h <;> rfl

end Connector

/-- How a column is compared with an operand. -/
inductive Operator
  | is
  | eq
  | gt
  | gte
  | lt
  | lte
  | like
  | isIn
  | between
deriving DecidableEq, Repr

namespace Operator

/-- All operators. -/
def all : List Operator :=
  [between, like, lte, lt, gte, gt, isIn, is, eq]

/-- The word for an operator in a filter. -/
def keyword : Operator → String
  | is => "is"
  | eq => "eq"
  | gt => "gt"
  | gte => "gte"
  | lt => "lt"
  | lte => "lte"
  | like => "like"
  | isIn => "in"
  | between => "between"

/-- The word for an operator in a debugging listing. -/
def title : Operator → String
  | is => "Is"
  | eq => "Eq"
  | gt => "Gt"
  | gte => "Gte"
  | lt => "Lt"
  | lte => "Lte"
  | like => "Like"
  | isIn => "In"
  | between => "Between"

/-- The sign of an operator between a column and one value. -/
def sign : Operator → String
  | is => "IS"
  | eq => "="
  | gt => ">"
  | gte => ">="
  | lt => "<"
  | lte => "<="
  | like => "LIKE"
  | isIn => "IN"
  | between => "BETWEEN"

/-- Whether an operator has a negated form. The comparisons of order have none, nor has a range. -/
def invertible : Operator → Bool
  | is | eq | like | isIn => true
  | _ => false

theorem mem_all (op : Operator) : op ∈ all := by
  cases op <;> decide

/-- The operator of a word. -/
def ofKeyword? (s : String) : Option Operator :=
  all.find? fun op => op.keyword == s

/-- Reads an operator. -/
def read (s : String) : Except FilterError Operator :=
  match ofKeyword? s with
  | some op => .ok op
  | none => .error (.unknownOperator s)

/-- The key of an operator, negated or not. -/
def key (op : Operator) (negated : Bool) : String :=
  if negated then "~" ++ op.keyword else op.keyword

/-- The operator of a key, and whether it is negated. -/
def ofKey? (s : String) : Option (Operator × Bool) :=
  match s.toList with
  | '~' :: r =>
    ((ofKeyword? (String.ofList r)).filter invertible).map fun op => (op, true)
  | _ => (ofKeyword? s).map fun op => (op, false)

@[simp] theorem ofKeyword?_keyword (op : Operator) : ofKeyword? op.keyword = some op := by
  cases op <;> decide

theorem ofKeyword?_eq_some_iff {s : String} {op : Operator} :
    ofKeyword? s = some op ↔ s = op.keyword := by
  refine ⟨fun h => ?_, fun h => h ▸ ofKeyword?_keyword op⟩
  have hk : op.keyword = s := by simpa using List.find?_some h
  exact hk.symm

/-- The key of an operator is the operator's, negated or not as far as it can be. -/
theorem ofKey?_key (op : Operator) (negated : Bool) :
    ofKey? (op.key negated) = if negated && !op.invertible then none else some (op, negated) := by
  cases op <;> cases negated <;> decide

end Operator

end RowQuery
