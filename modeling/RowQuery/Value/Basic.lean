import RowQuery.Calendar.DateTime
import RowQuery.Decimal.Reading

/-!
# Values

A cell of a row holds a `Value`: nothing (`null`), or a truth value, a number, a text, a day or a
time. A column declares one of six types for its cells.

Two values are compared only if their types agree, with two exceptions: an integer and a float
compare as floats, and a day compares with a time as its midnight. Every other pair, and every pair
with a null or with a float that is no number, is *unordered*, which `Value.compare?` says by
`none`.
-/

namespace RowQuery

open Calendar (Date DateTime)

/-- The type that a column declares. -/
inductive ColumnType
  | integer
  | float
  | text
  | boolean
  | date
  | dateTime
deriving DecidableEq, Repr

/-- The content of a cell. -/
inductive Value
  | null
  | bool (b : Bool)
  | int (i : Int)
  | float (x : Float)
  | text (s : String)
  | date (d : Date)
  | dateTime (t : DateTime)
deriving DecidableEq

instance : Inhabited Value := ⟨.null⟩

namespace ColumnType

/-- The name of a type. -/
def name : ColumnType → String
  | integer => "integer"
  | float => "float"
  | text => "text"
  | boolean => "boolean"
  | date => "date"
  | dateTime => "datetime"

/-- The type that a declaration names, by its name or by one of the other names in use. -/
def ofName? : String → Option ColumnType
  | "integer" | "int" | "bigint" => some integer
  | "float" | "double" | "real" => some float
  | "text" | "string" | "varchar" => some text
  | "boolean" | "bool" => some boolean
  | "date" => some date
  | "datetime" | "timestamp" => some dateTime
  | _ => none

@[simp] theorem ofName?_name (t : ColumnType) : ofName? t.name = some t := by
  cases t <;> rfl

end ColumnType

namespace Value

/-- Whether a cell is empty. -/
def isNull : Value → Bool
  | null => true
  | _ => false

/-- The type of a cell that is not empty. -/
def type? : Value → Option ColumnType
  | null => none
  | bool _ => some .boolean
  | int _ => some .integer
  | float _ => some .float
  | text _ => some .text
  | date _ => some .date
  | dateTime _ => some .dateTime

/-- The order of two floats, if both are numbers. -/
def compareFloats? (x y : Float) : Option Ordering :=
  if x < y then some .lt else if x == y then some .eq else if y < x then some .gt else none

/-- The order of two values, if they have one. Texts are ordered by code point. -/
def compare? : Value → Value → Option Ordering
  | bool a, bool b => some (compare a b)
  | int a, int b => some (compare a b)
  | float a, float b => compareFloats? a b
  | int a, float b => compareFloats? (Decimal.ofInt a) b
  | float a, int b => compareFloats? a (Decimal.ofInt b)
  | text a, text b => some (compare a b)
  | date a, date b => some (compare a.position b.position)
  | dateTime a, dateTime b => some (compare a.position b.position)
  | date a, dateTime b => some (compare (DateTime.midnight a).position b.position)
  | dateTime a, date b => some (compare a.position (DateTime.midnight b).position)
  | _, _ => none

end Value

end RowQuery
