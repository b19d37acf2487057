import RowQuery.Calendar.Writing
import RowQuery.Decimal.Notation
import RowQuery.Text.Quoted
import RowQuery.Value.Basic

/-!
# Values as text

A value is written for four readers. In the text of a predicate it looks like a literal of a query
language (`literal`). In the cell of a table it stands bare, and an empty cell shows nothing
(`cell`). A pattern is matched against its bare text, which an empty cell has not (`bare?`). In a
debugging listing it carries the name of its kind (`listing`).
-/

namespace RowQuery.Value

/-- A text between single quotes, each quote in it doubled. -/
def singleQuoted (s : List Char) : List Char :=
  '\'' :: s.flatMap (fun c => if c = '\'' then ['\'', '\''] else [c]) ++ ['\'']

/-- The value as a literal. -/
def literal : Value → List Char
  | null => "NULL".toList
  | bool b => if b then "TRUE".toList else "FALSE".toList
  | int i => Decimal.intText i
  | float x => Decimal.plain.text x
  | text s => singleQuoted s.toList
  | date d => singleQuoted d.text
  | dateTime t => singleQuoted t.text

/-- The value as plain text, if the cell is not empty. -/
def bare? : Value → Option (List Char)
  | null => none
  | bool b => some (if b then "true".toList else "false".toList)
  | int i => some (Decimal.intText i)
  | float x => some (Decimal.plain.text x)
  | text s => some s.toList
  | date d => some d.text
  | dateTime t => some t.text

/-- What the cell of a table shows. -/
def cell (v : Value) : List Char :=
  v.bare?.getD []

/-- The value in a debugging listing. -/
def listing : Value → List Char
  | null => "Null".toList
  | bool b => "Bool(".toList ++ (if b then "true".toList else "false".toList) ++ [')']
  | int i => "Int(".toList ++ Decimal.intText i ++ [')']
  | float x => "Float(".toList ++ Decimal.listing.text x ++ [')']
  | text s => "Text(".toList ++ (Text.quoted s).toList ++ [')']
  | date d => "Date(".toList ++ d.text ++ [')']
  | dateTime t => "DateTime(".toList ++ t.text ++ [')']

end RowQuery.Value
