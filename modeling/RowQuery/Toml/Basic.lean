/-!
# TOML values

The data model of TOML. Dates and times are kept as they are written, since nothing here asks for
more than that they are well formed.
-/

namespace RowQuery

/-- A TOML value. -/
inductive Toml
  | string (s : String)
  | integer (i : Int)
  | float (x : Float)
  | boolean (b : Bool)
  | dateTime (s : String)
  | array (items : List Toml)
  | table (entries : List (String × Toml))
deriving Inhabited

namespace Toml

/-- The entry of a table with a given key. -/
def get? (t : Toml) (key : String) : Option Toml :=
  match t with
  | table entries => entries.lookup key
  | _ => none

end Toml

end RowQuery
