/-!
# JSON values

The data model of JSON, with one distinction that plain numbers do not make: a number written
without fraction and exponent is an integer, if a 64-bit word (signed or not) can hold it, and
every other number is a float. The members of an object stand in a list; a reader leaves them in
the order of their names, a writer prints them as they stand.
-/

namespace RowQuery

/-- A JSON value. -/
inductive Json
  | null
  | bool (b : Bool)
  | int (i : Int)
  | float (x : Float)
  | string (s : String)
  | array (items : List Json)
  | object (members : List (String × Json))
deriving Inhabited

namespace Json

/-- The member of an object with a given name. -/
def get? (j : Json) (name : String) : Option Json :=
  match j with
  | object members => members.lookup name
  | _ => none

/-- A text, or null for none. -/
def ofText? : Option String → Json
  | some s => string s
  | none => null

end Json

end RowQuery
