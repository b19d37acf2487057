import RowQuery.Filter.Clause
import RowQuery.Filter.Literal
import RowQuery.Filter.Predicate
import RowQuery.Schema

/-!
# From clauses to a predicate

A clause becomes a comparison: its field is resolved to a column, its operator has to exist in the
form it is used, and its value is read by the column's type. How the comparisons are joined is a
matter of *groups*. A group is a run of clauses on one field; it ends where a clause names another
field, or names the same field with a connector that is not the group's own. Within a group
comparisons are joined from left to right, each by its separator — or by its connector, if it names
the field once more. The groups of a filter are joined by "and".
-/

namespace RowQuery

namespace Operand

/-- Reads one value of a column, or of another type in its place. -/
def readValue (column : Column) (type : ColumnType) (s : List Char) : Except FilterError Value :=
  match type.read? s with
  | some v => .ok v
  | none => .error (.unreadable column.name (String.ofList s) type)

/-- Reads a list of values. -/
def readList (column : Column) (type : ColumnType) (s : List Char) :
    Except FilterError (List Value) :=
  if s = [] then .error (.emptyList column.name)
  else (Literal.splitList s).mapM (readValue column type)

/-- Whether a text is a word for the empty cell, in any case. -/
def isNullWord (s : List Char) : Bool :=
  let word := s.map Char.toLower
  word = "null".toList || word = "none".toList

/-- Reads the operand of an operator. A pattern is a text, whatever the type of its column, and an
    unquoted list of patterns stands for any of them. -/
def read (column : Column) (operator : Operator) (value : String) : Except FilterError Operand :=
  let (inner, quoted) := Literal.stripQuotes value.toList
  match operator with
  | .isIn => (readList column column.type inner).map list
  | .between => do
    match ← readList column column.type inner with
    | [low, high] => return range low high
    | vs => throw (.boundCount column.name vs.length)
  | .like =>
    if !quoted && 1 < (Literal.splitList inner).length then
      (readList column .text inner).map list
    else .ok (scalar (.text (String.ofList (Literal.unescape inner))))
  | .is =>
    let plain := Literal.unescape inner
    if !quoted && isNullWord plain then .ok (scalar .null)
    else (readValue column column.type plain).map scalar
  | .eq | .gt | .gte | .lt | .lte =>
    (readValue column column.type (Literal.unescape inner)).map scalar

end Operand

namespace Clause

/-- The comparison that a clause makes with its field in force, negated if it is. -/
def predicate (resolve : Resolver) (field : String) (c : Clause) :
    Except FilterError Predicate := do
  let some column := resolve field | throw (.unknownField field)
  if c.negated && !c.operator.invertible then throw (.notInvertible c.key)
  let operand ← Operand.read column c.operator c.value
  let leaf := Predicate.compare ⟨column.name, c.operator, operand⟩
  return if c.negated then .not leaf else leaf

end Clause

/-- How far a list of clauses has been worked through. -/
structure Grouping where
  /-- The field in force. -/
  field : String
  /-- The connector of the clause that opened the group. -/
  connector? : Option Connector
  /-- The group so far: nothing before its first comparison. -/
  group? : Option Predicate
  /-- The groups that have ended, in order. -/
  closed : List Predicate

namespace Grouping

/-- The groups that have ended once the current one has. -/
def close (g : Grouping) : List Predicate :=
  g.closed ++ g.group?.toList

/-- Opens a group. -/
def openGroup (g : Grouping) (field : String) (connector? : Option Connector) : Grouping :=
  ⟨field, connector?, none, g.close⟩

/-- Makes room for a clause: the grouping that takes it, and what joins it to its group. -/
def enter (g : Grouping) (c : Clause) : Grouping × Connector :=
  match c.field? with
  | none => (g, c.separator)
  | some field =>
    if field ≠ g.field then (g.openGroup field c.connector?, c.separator)
    else match c.connector? with
      | none => (g, c.separator)
      | some k =>
        if g.connector? = some k then (g, k) else (g.openGroup field (some k), c.separator)

/-- Joins a comparison to the group. -/
def push (g : Grouping) (k : Connector) (p : Predicate) : Grouping :=
  { g with group? := some (match g.group? with
    | none => p
    | some q => k.join q p) }

/-- Takes one more clause. -/
def step (resolve : Resolver) (g : Grouping) (c : Clause) : Except FilterError Grouping := do
  let (g, k) := g.enter c
  return g.push k (← c.predicate resolve g.field)

end Grouping

namespace Predicate

/-- Predicates joined by "and" from left to right. -/
def all? : List Predicate → Option Predicate
  | [] => none
  | p :: ps => some (ps.foldl .and p)

/-- The predicate of a list of clauses; none if the list is empty. -/
def ofClauses (resolve : Resolver) : List Clause → Except FilterError (Option Predicate)
  | [] => .ok none
  | c :: cs => do
    let some field := c.field? | throw (.missingField 0)
    let g ← (c :: cs).foldlM (Grouping.step resolve) ⟨field, c.connector?, none, []⟩
    return all? g.close

/-- The predicate of a filter; none if the filter has no clause. -/
def compile (mode : Mode) (resolve : Resolver) (filter : String) :
    Except FilterError (Option Predicate) := do
  ofClauses resolve (← Clause.parse mode filter)

end Predicate

end RowQuery
