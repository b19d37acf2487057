import RowQuery.Command.Error
import RowQuery.Json.Reader
import RowQuery.Schema
import RowQuery.Toml.Reader

/-!
# Schemas and data from files

A schema file is a table of TOML that gives each column its type; a data file is an array of JSON
objects.
-/

namespace RowQuery

/-- The name of a type: a string, or the only key of a table, with nothing in it. -/
def typeName? : Toml → Option String
  | .string type | .table [(type, .table [])] | .table [(type, .array [])] => some type
  | _ => none

/-- A column that an entry of a table declares. -/
def declaredColumn? (entry : String × Toml) : Option (String × ColumnType) :=
  ((typeName? entry.2).bind ColumnType.ofName?).map fun type => (entry.1, type)

/-- The schema that a table declares. -/
def Schema.ofToml? : Toml → Option Schema
  | .table entries => (entries.mapM declaredColumn?).map fun types => ⟨Named.ofList types⟩
  | _ => none

/-- The schema that the text of a file declares. -/
def readSchema (path text : String) : Except InputError Schema :=
  match (Toml.read? text).bind Schema.ofToml? with
  | none => .error (.malformedSchema path)
  | some schema => if schema.types.isEmpty then .error (.emptySchema path) else .ok schema

/-- The objects among items, if all of them are. -/
def readObjects (path : String) (items : List Json) : Except InputError (List Members) :=
  items.zipIdx.mapM fun (item, index) => match item with
    | .object members => .ok members
    | other => .error (.noObject path index other)

/-- The objects that the text of a file holds. -/
def readData (path text : String) : Except CommandError (List Members) :=
  match Json.read? text with
  | none => .error .malformedData
  | some (.array items) => (readObjects path items).mapError .input
  | some _ => .error (.input (.noArray path))

variable {m : Type → Type} [Monad m] [Files m]

/-- Loads a schema file. -/
def loadSchema (path : String) : m (Except CommandError Schema) := do
  match ← Files.read path with
  | .error e => return .error (.file e)
  | .ok text => return (readSchema path text).mapError .input

/-- Loads a schema file if one is given. -/
def loadSchema? (path? : Option String) : m (Except CommandError (Option Schema)) := do
  match path? with
  | none => return .ok none
  | some path => return (← loadSchema path).map some

/-- Loads a data file. -/
def loadData (path : String) : m (Except CommandError (List Members)) := do
  match ← Files.read path with
  | .error e => return .error (.file e)
  | .ok text => return readData path text

end RowQuery
