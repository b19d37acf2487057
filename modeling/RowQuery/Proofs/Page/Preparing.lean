import Mathlib.Control.Monad.Basic
import RowQuery.Proofs.Page.Answer

/-!
# Pages and the queries behind them

A page is made from a prepared query, but shows what the query as it was asked gets from the table.
To prepare it finds exactly the faults that the table would have reported, so that once a query is
prepared the table reports none: only the sort may still break off.

* `PageRequest.prepare_eq_error_iff`: what preparing finds is what the table would report;
* `Table.answer_eq_disorder_iff`: when the sort breaks off;
* `page_agrees_with_fetch`: a page against the rows and the count that the table gives.
-/

namespace RowQuery

namespace Table

variable {t : Table} {q : PageQuery}

/-- Few rows are always put in order, and so are comparable ones. -/
theorem exists_sorted? {order : SortOrder} {rows : List Row}
    (h : comparable order.column rows ∨ rows.length ≤ Sorting.insertionLength) :
    ∃ out, sorted? order rows = some out := by
  rw [sorted?]
  split
  · exact ⟨_, rfl⟩
  · rename_i hno
    rw [Sorting.sort?, if_pos (h.resolve_left hno)]
    exact ⟨_, rfl⟩

/-- An answer breaks off if its filter and its order suit the table, and the sort breaks off. -/
theorem answer_eq_disorder_iff : t.answer q = .error .disorder ↔
    ∃ matching, t.select q.filter? = .ok matching ∧ t.checkOrder q.order? = .ok () ∧
      ordered? q.order? matching = none := by
  rw [answer]
  cases t.select q.filter? with
  | error e => simp [bind, Except.bind, Except.mapError]
  | ok matching =>
    simp only [mapError_ok, bind, Except.bind, arrange_eq, Except.ok.injEq, exists_eq_left']
    cases t.checkOrder q.order? with
    | error e => simp
    | ok _ => cases ordered? q.order? matching <;> simp

/-- What breaks off is the sort of many rows by cells that are not comparable. -/
theorem exists_of_ordered?_eq_none {order? : Option SortOrder} {rows : List Row}
    (h : ordered? order? rows = none) : ∃ order, order? = some order ∧
      comparable order.column rows = false ∧ Sorting.insertionLength < rows.length ∧
      Sorting.sort? (precedes order) rows = none := by
  cases order? with
  | none => cases h
  | some order =>
    have hnone : ¬(comparable order.column rows ∨ rows.length ≤ Sorting.insertionLength) := by
      intro hsome
      obtain ⟨out, hout⟩ := exists_sorted? hsome
      rw [ordered?, hout] at h
      cases h
    obtain ⟨hcomparable, hlength⟩ := not_or.1 hnone
    refine ⟨order, rfl, Bool.eq_false_iff.2 hcomparable, Nat.lt_of_not_le hlength, ?_⟩
    rwa [ordered?, sorted?, if_neg hcomparable] at h

end Table

theorem PageQuery.length_cut (q : PageQuery) (rows : List Row) :
    (q.cut rows).length =
      q.limit?.elim (rows.length - q.offset) fun n => min n (rows.length - q.offset) := by
  obtain ⟨filter?, offset, limit?, order?⟩ := q
  cases limit? with
  | none => exact List.length_drop
  | some n => exact List.length_take.trans (by rw [List.length_drop]; rfl)

/-- What preparing finds wrong with a query is what the table would report. -/
theorem PageRequest.prepare_eq_error_iff {r : PageRequest} {t : Table} {filter? : Option RowFilter}
    {e : FilterError} : r.prepare t.source filter? = .error e ↔
      t.answer (r.query filter?) = .error (.filter e) := by
  rw [prepare_table, Table.answer]
  cases hcompiled : t.compiled (r.query filter?).filter? with
  | error e' =>
    rw [Table.select_of_not_compiled hcompiled]
    simp [bind, Except.bind, Except.mapError]
  | ok compiled? =>
    obtain ⟨rows, hrows, -⟩ := Table.select_of_compiled hcompiled
    simp only [hrows, mapError_ok, bind, Except.bind, Table.arrange_eq]
    cases t.checkOrder (r.query filter?).order? with
    | error e' => simp
    | ok _ => cases Table.ordered? (r.query filter?).order? rows <;> simp [pure, Except.pure]

/-- Pages against what a table gives for the query as it was asked. To prepare the query fails
    exactly if the table reports a fault, with the same fault, and so does the page then. Otherwise
    the page has the rows and the count that the table gives, and as many rows as fit on it from the
    offset on; unless the sort of many rows by cells that are not comparable breaks off. -/
theorem page_agrees_with_fetch (t : Table) (r : PageRequest) (filter? : Option RowFilter) :
    (∀ e, r.prepare t.source filter? = .error e ↔ t.fetch (r.query filter?) = .error (.filter e)) ∧
    (∀ e, r.prepare t.source filter? = .error e →
      r.page t.source filter? = .error (.filter e)) ∧
    ∀ q, r.prepare t.source filter? = .ok q →
      (∃ p, r.page t.source filter? = .ok p ∧ t.fetch (r.query filter?) = .ok p.rows ∧
        t.count (r.query filter?).filter? = .ok p.count ∧
        p.rows.length = if 0 < r.limit then min r.limit.toNat (p.count - r.offset)
          else p.count - r.offset) ∨
      (r.page t.source filter? = .error (.source .disorder) ∧
        t.fetch (r.query filter?) = .error .disorder ∧
        ∃ order matching, (r.query filter?).order? = some order ∧
          t.select (r.query filter?).filter? = .ok matching ∧
          Table.comparable order.column matching = false ∧ 20 < matching.length ∧
          Sorting.sort? (Table.precedes order) matching = none) := by
  have hpage := r.page_table t filter?
  have hfetch := t.fetch_eq (r.query filter?)
  have hprepare (e : FilterError) := @PageRequest.prepare_eq_error_iff r t filter? e
  refine ⟨fun e => ?_, fun e he => ?_, fun q hq => ?_⟩
  · rw [hprepare, hfetch]
    cases t.answer (r.query filter?) <;> simp [Except.map]
  · rw [hpage, (hprepare e).1 he]
    rfl
  · cases hanswer : t.answer (r.query filter?) with
    | ok rows =>
      left
      rw [hanswer] at hpage hfetch
      obtain ⟨matching, hmatching, -, hordered⟩ := Table.answer_eq_ok.1 hanswer
      refine ⟨_, hpage, hfetch, ?_, ?_⟩
      · rw [Table.count, hmatching]
        exact congrArg Except.ok (Table.ordered?_perm _ hordered).length_eq.symm
      · rw [PageQuery.length_cut]
        simp only [PageRequest.query, PageRequest.pageSize?]
        split <;> rfl
    | error fault =>
      cases fault with
      | filter e =>
        rw [(hprepare e).2 hanswer] at hq
        cases hq
      | disorder =>
        right
        rw [hanswer] at hpage hfetch
        obtain ⟨matching, hmatching, -, hnone⟩ := Table.answer_eq_disorder_iff.1 hanswer
        obtain ⟨order, horder, hcomparable, hlength, hsort⟩ :=
          Table.exists_of_ordered?_eq_none hnone
        exact ⟨hpage, hfetch, order, matching, horder, hmatching, hcomparable, hlength, hsort⟩

/-- The last of three rows in order, on a page of two. -/
theorem page_agrees_with_fetch_last_row :
    let row (n : Int) : Row := (∅ : Row).insert "n" (.int n)
    let t : Table := ⟨⟨(∅ : Named ColumnType).insert "n" .integer⟩, [row 3, row 1, row 2], .lenient⟩
    let r : PageRequest := ⟨⟨"/r", []⟩, 2, 2, "n", .ascending, none⟩
    ∃ q p, r.prepare t.source none = .ok q ∧ r.page t.source none = .ok p ∧
      t.fetch (r.query none) = .ok p.rows ∧ p.rows = [row 3] ∧ p.count = 3 ∧
      p.rows.length = min 2 (p.count - 2) := by
  intro row t r
  have hprepare : r.prepare t.source none = .ok ⟨none, 2, some 2, some ⟨"n", .ascending⟩⟩ := by
    decide +kernel
  have hfetch : t.fetch (r.query none) = .ok [row 3] := by decide +kernel
  have hcount : t.count (r.query none).filter? = .ok 3 := by decide +kernel
  obtain ⟨-, -, hpage⟩ := page_agrees_with_fetch t r none
  rcases hpage _ hprepare with ⟨p, hp, hrows, hall, hlength⟩ | ⟨-, hnone, -⟩
  · have hrows' := Except.ok.inj (hrows.symm.trans hfetch)
    have hall' := Except.ok.inj (hall.symm.trans hcount)
    exact ⟨_, p, hprepare, hp, hrows, hrows', hall', hlength⟩
  · rw [hfetch] at hnone
    cases hnone

/-- The sort of twenty-one rows by cells of two types breaks off. -/
theorem page_breaks_off :
    let row (v : Value) : Row := (∅ : Row).insert "n" v
    let t : Table := ⟨⟨(∅ : Named ColumnType).insert "n" .integer⟩,
      row (.int 1) :: List.replicate 8 (row (.int 2)) ++
        row (.text "x") :: List.replicate 11 (row (.int 3)), .lenient⟩
    ∃ r q, PageRequest.ofUrl {} "/r?sort=n&offset=21" = .ok r ∧
      r.prepare t.source none = .ok q ∧ r.page t.source none = .error (.source .disorder) := by
  intro row t
  let r : PageRequest := ⟨⟨"/r", [("sort", "n"), ("offset", "21")]⟩, 21, 25, "n", .descending, none⟩
  refine ⟨r, ⟨none, 21, some 25, some ⟨"n", .descending⟩⟩, ?_, ?_, ?_⟩
  all_goals decide +kernel

end RowQuery
