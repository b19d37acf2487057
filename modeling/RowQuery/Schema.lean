import RowQuery.Filter.Error
import RowQuery.Json.Writer
import RowQuery.Named
import RowQuery.Value.Reading

/-!
# Columns, schemas and rows

A filter speaks of *fields*; a `Resolver` says which column, of which type, answers to a field. The
usual resolver is a `Schema`, a set of typed columns that answer to their own names. A schema is
declared or inferred from data, and turns an object of JSON data into a `Row`: one value for each
of its columns, null where the object has no member of that name. Members without a column are
left out.
-/

namespace RowQuery

/-- A column and the type of its values. -/
structure Column where
  name : String
  type : ColumnType
deriving DecidableEq, Repr

/-- Which column answers to a field, if any does. -/
abbrev Resolver := String → Option Column

/-- The members of a JSON object. -/
abbrev Members := List (String × Json)

/-- A row: values by column. -/
abbrev Row := Named Value

namespace Row

/-- The value in a column. A column that the row has not is empty. -/
def value (r : Row) (column : String) : Value :=
  (r.get? column).getD .null

/-- A row as a JSON object. -/
def toJson (r : Row) : Json :=
  .object (r.entries.map fun e => (e.1, e.2.toJson))

end Row

/-- Typed columns by name. -/
structure Schema where
  types : Named ColumnType
deriving DecidableEq

namespace Schema

/-- The columns, by name. -/
def columns (s : Schema) : List Column :=
  s.types.entries.map fun e => ⟨e.1, e.2⟩

/-- The column of a schema that has a name. -/
def resolve (s : Schema) : Resolver :=
  fun field => (s.types.get? field).map fun type => ⟨field, type⟩

/-- Adds the columns that an object suggests and that are not there yet. -/
def learn (s : Schema) (members : Members) : Schema :=
  members.foldl (fun s m =>
    match s.types.get? m.1, ColumnType.infer? m.2 with
    | none, some type => ⟨s.types.insert m.1 type⟩
    | _, _ => s) s

/-- The schema that data suggest: the type of a column is that of its first value that suggests
    one. -/
def infer (objects : List Members) : Schema :=
  objects.foldl learn ⟨∅⟩

/-- What an object holds for a column, if that is a value of the column's type. -/
def cell? (members : Members) (name : String) (type : ColumnType) : Option Value :=
  match members.lookup name with
  | none => some .null
  | some j => type.ofJson? j

/-- The first column, by name, for which an object holds no value of its type. -/
def fault? (s : Schema) (members : Members) : Option FilterError :=
  s.columns.findSome? fun c =>
    match members.lookup c.name, cell? members c.name c.type with
    | some j, none => some (.unreadable c.name j.compact c.type)
    | _, _ => none

/-- The row of an object. -/
def rowOfObject (s : Schema) (members : Members) : Except FilterError Row :=
  match s.fault? members with
  | some e => .error e
  | none => .ok (s.types.mapWithName fun name type => (cell? members name type).getD .null)

end Schema

end RowQuery
