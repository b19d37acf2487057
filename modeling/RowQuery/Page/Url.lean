import RowQuery.Page.Form

/-!
# Request addresses

The address of a request is a base and parameters, which stand behind a question mark. A parameter
may occur more than once; its first value counts. Changing parameters keeps the order of all others,
so that an address made from a request looks like the request.
-/

namespace RowQuery

/-- An address with its parameters, in order. -/
structure Url where
  base : String
  parameters : List (String × String)
deriving DecidableEq, Repr

namespace Url

/-- Reads an address. What follows a number sign is dropped. -/
def parse (s : String) : Url :=
  let address := s.toList.takeWhile (· ≠ '#')
  match Text.splitFirst? '?' address with
  | some (base, query) => ⟨String.ofList base, Form.read query⟩
  | none => ⟨String.ofList address, []⟩

/-- The first value of a parameter. -/
def get? (u : Url) (name : String) : Option String :=
  u.parameters.lookup name

/-- Sets a parameter in a list: at its first place, or at the end if it has none. -/
def setIn (name value : String) : List (String × String) → List (String × String)
  | [] => [(name, value)]
  | p :: ps =>
    if p.1 = name then (name, value) :: ps.filter (·.1 ≠ name) else p :: setIn name value ps

/-- The address with a parameter set. -/
def set (u : Url) (name value : String) : Url :=
  { u with parameters := setIn name value u.parameters }

/-- The address without a parameter. -/
def erase (u : Url) (name : String) : Url :=
  { u with parameters := u.parameters.filter (·.1 ≠ name) }

/-- The address as text. -/
def render (u : Url) : String :=
  match u.parameters with
  | [] => u.base
  | ps => u.base ++ String.ofList ('?' :: Form.write ps)

end Url

end RowQuery
