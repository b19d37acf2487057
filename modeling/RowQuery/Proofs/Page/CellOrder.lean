import RowQuery.Page.Table
import RowQuery.Proofs.Value.Order

/-!
# The order of cells

In a sorted table empty cells come last, in either direction, and the others are in the order of
their values or in its reverse. Two cells are ordered one way round as the other, whatever they
hold. Three cells are in order transitively if one is empty, or if the one in the middle has an
order with both others and integers among floats are in the order of their floats. Other cells need
not be: those without an order are not told apart, so that a text goes on either side of every day.

* `Table.cellOrder_swap`, `Table.cellOrder_trans`: two cells the other way round, and three;
* `Table.cellOrder_preorder`: the order of the cells in a column;
* `Table.cellOrder_not_preorder`: cells that are in no order, and a table that is not put in order
  for them.
-/

namespace RowQuery.Table

open Value (FloatsAgree)

variable {direction : Direction} {a b c : Value} {o o' : Ordering}

/-- Two cells the other way round. -/
theorem cellOrder_swap (direction : Direction) (a b : Value) :
    cellOrder direction b a = (cellOrder direction a b).swap := by
  have hvalues : (b.compare? a).getD .eq = ((a.compare? b).getD .eq).swap := by
    rw [Value.compare?_swap]
    cases a.compare? b <;> rfl
  rw [cellOrder, cellOrder, hvalues]
  cases a.isNull <;> cases b.isNull <;> cases direction <;> simp

/-! ## Empty cells -/

/-- Every cell may stand in front of an empty one. -/
theorem cellOrder_ne_gt_of_isNull (hb : b.isNull = true) : cellOrder direction a b ≠ .gt := by
  rw [cellOrder, hb]
  cases a.isNull <;> exact nofun

/-- No cell but an empty one may stand behind an empty one. -/
theorem isNull_of_cellOrder_ne_gt (ha : a.isNull = true) (h : cellOrder direction a b ≠ .gt) :
    b.isNull = true := by
  rw [cellOrder, ha] at h
  cases hb : b.isNull with
  | true => rfl
  | false =>
    rw [hb] at h
    exact absurd rfl h

/-! ## Cells with an order -/

theorem cellOrder_ascending (h : a.compare? b = some o) : cellOrder .ascending a b = o := by
  rw [cellOrder, (Value.isNull_of_compare? h).1, (Value.isNull_of_compare? h).2, h]
  rfl

theorem cellOrder_descending (h : a.compare? b = some o) : cellOrder .descending a b = o.swap := by
  rw [cellOrder, (Value.isNull_of_compare? h).1, (Value.isNull_of_compare? h).2, h]
  rfl

/-- Three cells of which the one in the middle has an order with both others. -/
theorem cellOrder_trans_of_compare? (hab : a.compare? b = some o) (hbc : b.compare? c = some o')
    (hfloats : FloatsAgree [a, b, c]) (hle : cellOrder direction a b ≠ .gt)
    (hle' : cellOrder direction b c ≠ .gt) : cellOrder direction a c ≠ .gt := by
  cases direction with
  | ascending =>
    rw [cellOrder_ascending hab] at hle
    rw [cellOrder_ascending hbc] at hle'
    obtain ⟨o'', hac, ho''⟩ := Value.exists_compare?_trans hfloats hab hle hbc hle'
    rwa [cellOrder_ascending hac]
  | descending =>
    -- The direction that falls from `a` to `c` rises from `c` to `a`.
    have hba : b.compare? a = some o.swap := by rw [Value.compare?_swap, hab, Option.map_some]
    have hcb : c.compare? b = some o'.swap := by rw [Value.compare?_swap, hbc, Option.map_some]
    rw [cellOrder_descending hab] at hle
    rw [cellOrder_descending hbc] at hle'
    obtain ⟨o'', hca, ho''⟩ :=
      Value.exists_compare?_trans (hfloats.subset (by simp)) hcb hle' hba hle
    have hac : a.compare? c = some o''.swap := by rw [Value.compare?_swap, hca, Option.map_some]
    rwa [cellOrder_descending hac, Ordering.swap_swap]

/-- Three cells in order. -/
theorem cellOrder_trans (h : a.isNull ∨ b.isNull ∨ c.isNull ∨
      (a.compare? b).isSome ∧ (b.compare? c).isSome ∧ FloatsAgree [a, b, c])
    (hab : cellOrder direction a b ≠ .gt) (hbc : cellOrder direction b c ≠ .gt) :
    cellOrder direction a c ≠ .gt := by
  rcases h with ha | hb | hc | ⟨hsome, hsome', hfloats⟩
  · have hb := isNull_of_cellOrder_ne_gt ha hab
    exact cellOrder_ne_gt_of_isNull (isNull_of_cellOrder_ne_gt hb hbc)
  · exact cellOrder_ne_gt_of_isNull (isNull_of_cellOrder_ne_gt hb hbc)
  · exact cellOrder_ne_gt_of_isNull hc
  · obtain ⟨o, ho⟩ := Option.isSome_iff_exists.1 hsome
    obtain ⟨o', ho'⟩ := Option.isSome_iff_exists.1 hsome'
    exact cellOrder_trans_of_compare? ho ho' hfloats hab hbc

/-- The order of the cells in a column, in either direction. Two cells are ordered one way round as
    the other. Of three cells of which none has to stand behind the next, the first need not stand
    behind the last; if none of them is empty, those next to one another have to have an order, and
    integers among floats have to be in the order of their floats. -/
theorem cellOrder_preorder (direction : Direction) :
    (∀ a b, cellOrder direction b a = (cellOrder direction a b).swap) ∧
    ∀ a b c, (a.isNull ∨ b.isNull ∨ c.isNull ∨
        (a.compare? b).isSome ∧ (b.compare? c).isSome ∧ FloatsAgree [a, b, c]) →
      cellOrder direction a b ≠ .gt → cellOrder direction b c ≠ .gt →
      cellOrder direction a c ≠ .gt :=
  ⟨cellOrder_swap direction, fun _ _ _ => cellOrder_trans⟩

/-- A float between two integers, from the greatest to the least. -/
theorem cellOrder_preorder_numbers :
    let a := Value.int 3
    let b := Value.float 2.5
    let c := Value.int 2
    cellOrder .descending a b = .lt ∧ cellOrder .descending b c = .lt ∧
      cellOrder .descending b a = .gt ∧ cellOrder .descending a c ≠ .gt := by
  intro a b c
  obtain ⟨hswap, htrans⟩ := cellOrder_preorder .descending
  have hab : cellOrder .descending a b = .lt := by decide +kernel
  have hbc : cellOrder .descending b c = .lt := by decide +kernel
  have hfloats : FloatsAgree [a, b, c] := by
    intro _ _ v hv w hw i j hi hj
    subst hi hj
    simp only [a, b, c, List.mem_cons, Value.int.injEq, reduceCtorEq, List.not_mem_nil,
      false_or, or_false] at hv hw
    obtain rfl | rfl := hv <;> obtain rfl | rfl := hw <;> decide +kernel
  refine ⟨hab, hbc, by rw [hswap, hab]; rfl, htrans a b c (.inr (.inr (.inr ?_))) ?_ ?_⟩
  · exact ⟨by decide +kernel, by decide +kernel, hfloats⟩
  · rw [hab]
    exact nofun
  · rw [hbc]
    exact nofun

/-- A text between two days, and a float between two integers to which it is nearest, are in no
    order with both. A table that has the text in a column of days is not put in order: the later of
    its days stays in front. -/
theorem cellOrder_not_preorder :
    let early := Value.date ⟨2020, 1, 1, by decide, by decide⟩
    let late := Value.date ⟨2020, 1, 2, by decide, by decide⟩
    let row (v : Value) : Row := (∅ : Row).insert "d" v
    let t : Table := ⟨⟨(∅ : Named ColumnType).insert "d" .date⟩,
      [row late, row (.text "x"), row early], .lenient⟩
    (cellOrder .ascending late (.text "x") = .eq ∧ cellOrder .ascending (.text "x") early = .eq ∧
      cellOrder .ascending late early = .gt) ∧
    (cellOrder .ascending (.int 0x20000000000001) (.float 0x20000000000000) = .eq ∧
      cellOrder .ascending (.float 0x20000000000000) (.int 0x20000000000000) = .eq ∧
      cellOrder .ascending (.int 0x20000000000001) (.int 0x20000000000000) = .gt) ∧
    t.fetch ⟨none, 0, none, some ⟨"d", .ascending⟩⟩ = .ok t.rows := by
  refine ⟨⟨rfl, rfl, rfl⟩, ?_, ?_⟩
  · decide +kernel
  · rfl

end RowQuery.Table
