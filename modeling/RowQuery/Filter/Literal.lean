/-!
# Operands as they are written

The value of a clause is a text with escapes: a backslash makes the character behind it plain, and
one at the very end stands for nothing. `unescape` takes the escapes out. `splitList` reads a list:
commas that are not escaped separate its items, and escapes are taken out of each. Quotes around a
value keep its special characters plain for the scanner; `stripQuotes` takes one pair off.

* `splitList_ne_nil`: a list has an item at least, if only an empty one.
-/

namespace RowQuery.Literal

/-- The text without one pair of matching quotes around it, and whether there was one. -/
def stripQuotes (s : List Char) : List Char × Bool :=
  match s with
  | q :: r =>
    if (q = '"' ∨ q = '\'') ∧ r.getLast? = some q then (r.dropLast, true) else (s, false)
  | [] => (s, false)

/-- The text with its escapes taken out. -/
def unescape : List Char → List Char
  | [] => []
  | ['\\'] => []
  | '\\' :: c :: s => c :: unescape s
  | c :: s => c :: unescape s

/-- Puts a character in front of the first item. -/
def consItem (c : Char) : List (List Char) → List (List Char)
  | item :: items => (c :: item) :: items
  | [] => [[c]]

/-- The items between commas that are not escaped, with their escapes taken out. -/
def splitList : List Char → List (List Char)
  | [] => [[]]
  | ['\\'] => [[]]
  | '\\' :: c :: s => consItem c (splitList s)
  | c :: s => if c = ',' then [] :: splitList s else consItem c (splitList s)

theorem consItem_ne_nil (c : Char) (items : List (List Char)) : consItem c items ≠ [] := by
  cases items <;> simp [consItem]

theorem splitList_ne_nil (s : List Char) : splitList s ≠ [] := by
  fun_induction splitList s <;> simp [consItem_ne_nil]

end RowQuery.Literal
