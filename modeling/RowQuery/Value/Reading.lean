import RowQuery.Calendar.Reading
import RowQuery.Calendar.Writing
import RowQuery.Decimal.Notation
import RowQuery.Decimal.Reading
import RowQuery.Json.Basic
import RowQuery.Text.Space
import RowQuery.Value.Basic

/-!
# Values of a type

A column's type decides what a text means in it (`ColumnType.read?`): in a text column everything
is itself, and elsewhere white space at the ends does not count. A cell of JSON data is read by
the same rule if it is a string, and taken as it is otherwise, if its kind suits the type
(`ColumnType.ofJson?`); null is an empty cell in every column. `ColumnType.infer?` guesses the type
of a column from one of its cells.
-/

namespace RowQuery

namespace ColumnType

/-- The words for true and false, in small letters. -/
def readWord? : List Char → Option Bool
  | ['t', 'r', 'u', 'e'] | ['t'] | ['1'] | ['y', 'e', 's'] | ['y'] => some true
  | ['f', 'a', 'l', 's', 'e'] | ['f'] | ['0'] | ['n', 'o'] | ['n'] => some false
  | _ => none

/-- Reads a value of the type. -/
def read? (t : ColumnType) (s : List Char) : Option Value :=
  match t with
  | integer => (Decimal.readInt64? (Text.trim s)).map .int
  | float => (Decimal.readFloat? (Text.trim s)).map .float
  | text => some (.text (String.ofList s))
  | boolean => (readWord? ((Text.trim s).map Char.toLower)).map .bool
  | date => (Calendar.readDate? (Text.trim s)).map .date
  | dateTime => (Calendar.readDateTime? (Text.trim s)).map .dateTime

/-- A cell of JSON data as a value of the type. -/
def ofJson? (t : ColumnType) (j : Json) : Option Value :=
  match t, j with
  | _, .null => some .null
  | integer, .int i => if Decimal.isInt64 i then some (.int i) else none
  | float, .int i => some (.float (Decimal.ofInt i))
  | float, .float x => some (.float x)
  | boolean, .bool b => some (.bool b)
  | text, .int i => some (.text (String.ofList (Decimal.intText i)))
  | text, .float x => some (.text (String.ofList (Decimal.json.text x)))
  | text, .bool b => some (.text (if b then "true" else "false"))
  | t, .string s => t.read? s.toList
  | _, _ => none

/-- The type that a cell of JSON data suggests. A text suggests a day or a time if it is one from
    its first character to its last. -/
def infer? : Json → Option ColumnType
  | .bool _ => some boolean
  | .int _ => some integer
  | .float _ => some float
  | .string s =>
    if (Calendar.readDate? s.toList).isSome then some date
    else if (Calendar.readDateTime? s.toList).isSome then some dateTime
    else some text
  | _ => none

end ColumnType

/-- The value as JSON: dates and times as their text. -/
def Value.toJson : Value → Json
  | .null => .null
  | .bool b => .bool b
  | .int i => .int i
  | .float x => .float x
  | .text s => .string s
  | .date d => .string (String.ofList d.text)
  | .dateTime t => .string (String.ofList t.text)

end RowQuery
