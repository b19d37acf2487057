import RowQuery.Decimal.Digits
import RowQuery.Value.Basic

/-!
# What can be wrong with a filter

One constructor for each cause; the wording is `FilterError.message` and nowhere else. Positions
are byte offsets into the text of the filter.
-/

namespace RowQuery

/-- Why a filter was refused, or a row of data. -/
inductive FilterError
  /-- A part of the text is no clause. -/
  | unrecognized (fragment : String) (position : Nat)
  /-- A word is no operator. -/
  | unknownOperator (word : String)
  /-- A mark is no connector. -/
  | unknownConnector (mark : String)
  /-- The clause at this position needs a field and names none. -/
  | missingField (position : Nat)
  /-- No column answers to this name. -/
  | unknownField (field : String)
  /-- A text, or a cell of data, is no value of the column's type. -/
  | unreadable (field value : String) (type : ColumnType)
  /-- A range needs two bounds and has another number of them. -/
  | boundCount (field : String) (count : Nat)
  /-- A list of values is empty. -/
  | emptyList (field : String)
  /-- The operator has no negated form. -/
  | notInvertible (key : String)
deriving DecidableEq, Repr

namespace FilterError

/-- A broad class of errors. -/
inductive Kind
  /-- The form of the filter is wrong. -/
  | form
  /-- A field does not exist. -/
  | field
  /-- A value does not suit its column. -/
  | value
deriving DecidableEq, Repr

/-- The class of an error. -/
def kind : FilterError → Kind
  | unrecognized .. | unknownOperator _ | unknownConnector _ | missingField _
  | notInvertible _ => .form
  | unknownField _ => .field
  | unreadable .. | boundCount .. | emptyList _ => .value

/-- A natural number in a message. -/
def count (n : Nat) : String :=
  String.ofList (Decimal.natText n)

/-- The text of an error. -/
def message : FilterError → String
  | unrecognized fragment position =>
    "unrecognized input '" ++ fragment ++ "' at position " ++ count position
  | unknownOperator word => "invalid operator: " ++ word
  | unknownConnector mark => "connector must be one of [':', '|'], not '" ++ mark ++ "'"
  | missingField position => "missing field name at position " ++ count position
  | unknownField field => "unknown field: " ++ field
  | unreadable field value type =>
    "cannot convert '" ++ value ++ "' to " ++ type.name ++ " for field " ++ field
  | boundCount field n => "between on field " ++ field ++ " needs exactly 2 bounds, got " ++ count n
  | emptyList field => "empty value list for field " ++ field
  | notInvertible key => "operator cannot be inverted: " ++ key

end FilterError

end RowQuery
