/-!
# Splitting texts

A text is split at every occurrence of a separator (`splitAll`) or at its first (`splitFirst?`).

* `splitAll_ne_nil`: there is always a piece, if only an empty one.
-/

namespace RowQuery.Text

/-- The pieces between separators. -/
def splitAll (separator : Char) : List Char → List (List Char)
  | [] => [[]]
  | c :: s =>
    if c = separator then [] :: splitAll separator s
    else match splitAll separator s with
      | p :: ps => (c :: p) :: ps
      | [] => [[c]]

/-- What stands before the first separator and what behind it, if there is one. -/
def splitFirst? (separator : Char) : List Char → Option (List Char × List Char)
  | [] => none
  | c :: s =>
    if c = separator then some ([], s)
    else (splitFirst? separator s).map fun (a, b) => (c :: a, b)

theorem splitAll_ne_nil (separator : Char) (s : List Char) : splitAll separator s ≠ [] := by
  fun_induction splitAll separator s <;> simp_all

end RowQuery.Text
