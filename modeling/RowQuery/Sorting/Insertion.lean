/-!
# Sorting by insertion

Items are taken one after the other and put behind all items that they need not stand in front of.
Under an order that tells items apart consistently this is *the* stable way to sort: any other gives
the same result.

Throughout, `less a b` says that `a` has to stand in front of `b`. Items of which neither has to
stand in front of the other keep their places.
-/

namespace RowQuery.Sorting

variable {α : Type} (less : α → α → Bool)

/-- Puts an item into sorted items, which stand in reverse: behind the items that have to follow it
    and in front of all others. -/
def insertReversed (a : α) : List α → List α
  | [] => [a]
  | b :: bs => if less a b then b :: insertReversed a bs else a :: b :: bs

/-- Puts items into sorted ones, in turn. -/
def insertAll (sorted items : List α) : List α :=
  (items.foldl (fun done a => insertReversed less a done) sorted.reverse).reverse

/-- The items in order. -/
def insertion (items : List α) : List α :=
  insertAll less [] items

end RowQuery.Sorting
