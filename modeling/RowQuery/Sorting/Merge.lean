import RowQuery.Sorting.Insertion

/-!
# Merging sorted lists

Two sorted lists are merged from the front, from the back, or from both ends at once. Under a total
order all three agree. If the order is not total they need not: two ends that do not meet give away
that `less` is no order, and the sort breaks off with no result.
-/

namespace RowQuery.Sorting

variable {α : Type} (less : α → α → Bool)

/-- Merges two lists from the front. -/
def mergeForward (left right : List α) : List α :=
  left.merge right fun a b => !less b a

/-- Merges two lists from the back. They come in reverse, and so does the result. -/
def mergeBackward (left right : List α) : List α :=
  left.merge right fun a b => less b a

/-- Merges two lists, from the side of the shorter. -/
def merge (left right : List α) : List α :=
  if left.length ≤ right.length then mergeForward less left right
  else (mergeBackward less left.reverse right.reverse).reverse

/-- The first items of a merge from the front, so many of them, and how many come from the left. -/
def takeFront : Nat → List α → List α → List α × Nat
  | n + 1, a :: left, b :: right =>
    if less b a then
      let (out, taken) := takeFront n (a :: left) right
      (b :: out, taken)
    else
      let (out, taken) := takeFront n left (b :: right)
      (a :: out, taken + 1)
  | _, _, _ => ([], 0)

/-- The last items of a merge from the back, so many of them, and how many come from the left. The
    lists come in reverse, and so do the items. -/
def takeBack : Nat → List α → List α → List α × Nat
  | n + 1, a :: left, b :: right =>
    if less b a then
      let (out, taken) := takeBack n left (b :: right)
      (a :: out, taken + 1)
    else
      let (out, taken) := takeBack n (a :: left) right
      (b :: out, taken)
  | _, _, _ => ([], 0)

/-- Merges the two halves of a list from both ends at once, if the ends meet. -/
def mergeEnds? (items : List α) : Option (List α) :=
  let half := items.length / 2
  let left := items.take half
  let right := items.drop half
  let (front, first) := takeFront less half left right
  let (back, last) := takeBack less half left.reverse right.reverse
  let middle :=
    if items.length % 2 = 0 then []
    else if first + last < half then (left.drop first).take 1
    else (right.drop (half - first)).take 1
  if first + last = half ∨ (items.length % 2 = 1 ∧ first + last + 1 = half) then
    some (front ++ middle ++ back.reverse)
  else none

/-! ## Short lists -/

/-- Four items in order, by five comparisons. -/
def sortFour (a b c d : α) : List α :=
  let (a, b) := if less b a then (b, a) else (a, b)
  let (c, d) := if less d c then (d, c) else (c, d)
  let crossed := less c a
  let nested := less d b
  let least := if crossed then c else a
  let greatest := if nested then b else d
  let former := if crossed then a else if nested then c else b
  let latter := if nested then d else if crossed then b else c
  if less latter former then [least, latter, former, greatest]
  else [least, former, latter, greatest]

/-- The first four items in order, or the first item alone. -/
def firstFour : List α → List α
  | a :: b :: c :: d :: _ => sortFour less a b c d
  | items => items.take 1

/-- The first items in order: eight, four or one, depending on the length of the whole. -/
def sortStart? (whole : Nat) (items : List α) : Option (List α) :=
  if 16 ≤ whole then mergeEnds? less (firstFour less items ++ firstFour less (items.drop 4))
  else if 8 ≤ whole then some (firstFour less items)
  else some (items.take 1)

/-- One half of a short list in order, begun with a few items in order and completed by
    insertion. -/
def sortHalf? (whole : Nat) (half : List α) : Option (List α) := do
  let start ← sortStart? less whole half
  return insertAll less start (half.drop start.length)

/-- A short list in order: its halves are put in order and merged. -/
def sortShort? (items : List α) : Option (List α) := do
  if items.length < 2 then return items
  let left ← sortHalf? less items.length (items.take (items.length / 2))
  let right ← sortHalf? less items.length (items.drop (items.length / 2))
  mergeEnds? less (left ++ right)

end RowQuery.Sorting
