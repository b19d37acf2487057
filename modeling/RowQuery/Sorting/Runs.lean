import RowQuery.Sorting.Merge

/-!
# Sorting by runs

A list is cut into *runs*, which are merged along a tree that is nearly balanced. A run is a stretch
that is in order already, if it is long enough. Otherwise it is a stretch of fixed length, which is
sorted at once in a list that is not much longer, and else left as it is until it meets a run in
order; stretches that are left alone grow together and are sorted by partition around pivots.

Under a total order this gives the same list as insertion. Under an order that is not total, which
items are compared decides on the result, and on whether there is one: a merge of a short list may
break off. So the lengths and choices below are part of it.
-/

namespace RowQuery.Sorting

variable {α : Type}

/-- The greatest length of a list that is sorted by insertion. -/
def insertionLength : Nat := 20

/-- The greatest length of a list that is sorted as a short one. -/
def shortLength : Nat := 32

/-! ## Runs -/

/-- A stretch of a list, in order or not. -/
structure Run (α : Type) where
  items : List α
  inOrder : Bool

/-- How many items follow an item as its predecessor follows it: each has to stand in front of the
    one before it, or none has to. -/
def runLength (less : α → α → Bool) (falling : Bool) (a : α) : List α → Nat
  | [] => 0
  | b :: bs => if less b a == falling then runLength less falling b bs + 1 else 0

/-- The stretch at the front of a list that is in order, as it stands or in reverse. It is put in
    order. -/
def firstRun (less : α → α → Bool) : List α → List α
  | a :: b :: items =>
    let falling := less b a
    let run := a :: b :: items.take (runLength less falling b items)
    if falling then run.reverse else run
  | items => items

/-- The run at the front of a list. A stretch in order counts if it has the least length `good`. -/
def Run.next? (less : α → α → Bool) (good : Nat) (eager : Bool) (items : List α) :
    Option (Run α) := do
  let run := firstRun less items
  if good ≤ items.length && good ≤ run.length then return ⟨run, true⟩
  else if eager then return ⟨← sortShort? less (items.take shortLength), true⟩
  else return ⟨items.take good, false⟩

/-- The items of a run in order, given how to sort them. -/
def Run.sort? (sort? : List α → Option (List α)) (r : Run α) : Option (List α) :=
  if r.inOrder then some r.items else sort? r.items

/-- Joins two runs. They are merged if one is in order. -/
def Run.join? (less : α → α → Bool) (sort? : List α → Option (List α)) (left right : Run α) :
    Option (Run α) := do
  if left.inOrder || right.inOrder then
    return ⟨merge less (← left.sort? sort?) (← right.sort? sort?), true⟩
  else return ⟨left.items ++ right.items, false⟩

/-- How deep in the tree of merges two neighbours meet: where, on the scale from zero to one of the
    whole list, the middles of both first differ as binary fractions. -/
def mergeDepth (whole start middle stop : Nat) : Nat :=
  let scale := (0x4000000000000000 + whole - 1) / whole
  let differing := (scale * (start + middle)) ^^^ (scale * (middle + stop))
  if differing = 0 then 64 else 63 - differing.log2

/-- Joins a run with those on a stack, as long as they meet at least so deep. -/
def collapse? (join? : Run α → Run α → Option (Run α)) (depth : Nat) (last : Run α) :
    List (Run α × Nat) → Option (Run α × List (Run α × Nat))
  | [] => some (last, [])
  | (r, d) :: stack => do
    if depth ≤ d then collapse? join? depth (← join? r last) stack
    else return (last, (r, d) :: stack)

/-- Goes through a list run by run. On the stack stand runs that wait for a neighbour, with the
    depth at which they meet it. -/
def joinRuns? (next? : List α → Option (Run α)) (join? : Run α → Run α → Option (Run α))
    (whole : Nat) : Nat → Nat → List α → Run α → List (Run α × Nat) → Option (Run α)
  | fuel + 1, start, a :: rest, last, stack => do
    let r ← next? (a :: rest)
    let stop := start + r.items.length
    let depth := mergeDepth whole (start - last.items.length) start stop
    let (joined, stack) ← collapse? join? depth last stack
    joinRuns? next? join? whole fuel stop ((a :: rest).drop r.items.length) r
      ((joined, depth) :: stack)
  | _, _, _, last, stack => (collapse? join? 0 last stack).map (·.1)

/-- The least length of a stretch that counts as a run. -/
def goodLength (whole : Nat) : Nat :=
  if whole ≤ 4096 then min (whole - whole / 2) 64
  else
    let shift := (1 + whole.log2) / 2
    ((1 <<< shift) + (whole >>> shift)) / 2

/-- A list in order, by its runs. -/
def byRuns? (less : α → α → Bool) (eager : Bool) (sort? : List α → Option (List α))
    (items : List α) : Option (List α) := do
  let next? := Run.next? less (goodLength items.length) eager
  let first ← next? items
  let whole ← joinRuns? next? (Run.join? less sort?) items.length items.length first.items.length
    (items.drop first.items.length) first []
  whole.sort? sort?

/-! ## Partition -/

/-- Which of three places holds the item between the other two. -/
def median (less : Nat → Nat → Bool) (a b c : Nat) : Nat :=
  if less a b == less a c then if less b c == less a b then b else c else a

/-- The median of three places, each of which stands for a stretch of a given length and is replaced
    by a median of that stretch if it is long. -/
def medianOf (less : Nat → Nat → Bool) (a b c length : Nat) : Nat :=
  if 8 ≤ length then
    let step := length / 8
    let of (p : Nat) := medianOf less p (p + step * 4) (p + step * 7) step
    median less (of a) (of b) (of c)
  else median less a b c
termination_by length
decreasing_by all_goals omega

/-- The place of the item around which a list is partitioned. -/
def pivotPlace (less : Nat → Nat → Bool) (length : Nat) : Nat :=
  let step := length / 8
  if length < 64 then median less 0 (step * 4) (step * 7)
  else medianOf less 0 (step * 4) (step * 7) step

/-- The items for which a test holds, and the others. The item at one place is not tested. -/
def partitionAt (place : Nat) (placeHolds : Bool) (test : α → Bool) (items : List α) :
    List α × List α :=
  let (yes, no) := items.zipIdx.partition fun (a, i) => if i = place then placeHolds else test a
  (yes.map (·.1), no.map (·.1))

/-- A list in order, by partition. `above?` is the pivot next to the left, if there is one; a pivot
    that need not stand behind it is taken with all its equals. After too many partitions the list
    is sorted by its runs. -/
def byPartition? (less : α → α → Bool) : Nat → Nat → Option α → List α → Option (List α)
  | fuel + 1, limit + 1, above?, items =>
    if items.length ≤ shortLength then sortShort? less items
    else
      let array := items.toArray
      let lessAt (i j : Nat) :=
        match array[i]?, array[j]? with
        | some a, some b => less a b
        | _, _ => false
      let place := pivotPlace lessAt items.length
      match array[place]? with
      | none => some (insertion less items)
      | some pivot =>
        let (left, right) := partitionAt place false (less · pivot) items
        if left.isEmpty || above?.any (fun a => !less a pivot) then do
          let (equal, rest) := partitionAt place true (fun a => !less pivot a) items
          return equal ++ (← byPartition? less fuel limit none rest)
        else do
          let front ← byPartition? less fuel limit above? left
          let back ← byPartition? less fuel limit (some pivot) right
          return front ++ back
  | _, _, _, items =>
    if items.length ≤ shortLength then sortShort? less items else byRuns? less true some items

/-- A list in order: by insertion if it has few items, and by runs otherwise. There is none if the
    sort breaks off. -/
def sort? (less : α → α → Bool) (items : List α) : Option (List α) :=
  if items.length ≤ insertionLength then some (insertion less items)
  else
    byRuns? less (items.length ≤ 2 * shortLength)
      (fun part => byPartition? less part.length (2 * part.length.log2) none part) items

end RowQuery.Sorting
