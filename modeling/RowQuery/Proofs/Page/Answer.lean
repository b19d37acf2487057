import RowQuery.Page.Table
import RowQuery.Proofs.Result
import RowQuery.Proofs.Sorting.Runs

/-!
# Pages of a table

A page of a table is cut out of the *answer* to its query: the rows that satisfy the filter, in the
order asked for. To compile the filter beforehand makes no difference, so that a page fails exactly
if there is no answer, and then with the fault of the filter or of the order. The table itself never
reports a fault; but the sort may break off.

* `Table.ordered?_perm`, `Table.ordered_perm`: an order loses and repeats no row;
* `Table.answer_eq_ok`: what an answer consists of;
* `Table.select_of_compiled`: a filter that is compiled beforehand selects the same rows;
* `PageRequest.page_table`: the page that a request gets from a table.
-/

namespace RowQuery

namespace Table

/-- Rows in the order asked for, if one is, unless the sort breaks off. -/
def ordered? (order? : Option SortOrder) (rows : List Row) : Option (List Row) :=
  match order? with
  | none => some rows
  | some order => sorted? order rows

/-- Rows in the order asked for, if one is. Where the sort breaks off, they stay as they are. -/
def ordered (order? : Option SortOrder) (rows : List Row) : List Row :=
  (ordered? order? rows).getD rows

/-- Refuses to sort by a column that is not there. -/
def checkOrder (t : Table) : Option SortOrder → Except FilterError Unit
  | none => .ok ()
  | some order =>
    if (t.schema.types.get? order.column).isNone then .error (.unknownField order.column)
    else .ok ()

/-- The rows that satisfy a query's filter, in its order. -/
def answer (t : Table) (q : PageQuery) : Except TableFault (List Row) := do
  let rows ← (t.select q.filter?).mapError .filter
  t.arrange rows q.order?

/-- A filter compiled against a table. -/
def compiled (t : Table) : Option RowFilter → Except FilterError (Option RowFilter)
  | some (.text s) =>
    (Predicate.compile t.mode t.schema.resolve s).map fun p? => p?.map RowFilter.predicate
  | other => .ok other

end Table

/-- The part of an answer that a query asks for. -/
def PageQuery.cut (q : PageQuery) (rows : List Row) : List Row :=
  match q.limit? with
  | none => rows.drop q.offset
  | some n => (rows.drop q.offset).take n

theorem PageQuery.cut_of_limit {q : PageQuery} {n : Nat} (h : q.limit? = some n)
    (rows : List Row) : q.cut rows = (rows.drop q.offset).take n := by
  obtain ⟨filter?, offset, limit?, order?⟩ := q
  cases h
  rfl

namespace Table

variable {t : Table} {filter? : Option RowFilter}

theorem ordered?_perm (order? : Option SortOrder) : Sorting.Permutes (ordered? order?) := by
  intro rows out h
  cases order? with
  | none => rw [← Option.some.inj h]
  | some order =>
    rw [ordered?, sorted?] at h
    split at h
    · rw [← Option.some.inj h]
      exact Sorting.insertion_perm _ rows
    · exact Sorting.sort?_perm _ h

theorem ordered_perm (order? : Option SortOrder) (rows : List Row) :
    (ordered order? rows).Perm rows := by
  rw [ordered]
  cases h : ordered? order? rows with
  | none => exact .refl rows
  | some out => exact ordered?_perm order? h

theorem arrange_eq (t : Table) (rows : List Row) (order? : Option SortOrder) :
    t.arrange rows order? = match t.checkOrder order?, ordered? order? rows with
      | .error e, _ => .error (.filter e)
      | .ok _, some out => .ok out
      | .ok _, none => .error .disorder := by
  cases order? with
  | none => rfl
  | some order =>
    rw [arrange, checkOrder, ordered?]
    split
    · rfl
    · cases sorted? order rows <;> rfl

theorem answer_eq_ok {q : PageQuery} {rows : List Row} : t.answer q = .ok rows ↔
    ∃ matching, t.select q.filter? = .ok matching ∧ t.checkOrder q.order? = .ok () ∧
      ordered? q.order? matching = some rows := by
  rw [answer]
  cases t.select q.filter? with
  | error e => exact ⟨nofun, nofun⟩
  | ok matching =>
    simp only [mapError_ok, bind, Except.bind, arrange_eq, Except.ok.injEq, exists_eq_left']
    cases t.checkOrder q.order? with
    | error e => exact ⟨nofun, nofun⟩
    | ok _ => cases ordered? q.order? matching <;> simp

/-- An answer is the rows that satisfy the filter, in order. -/
theorem exists_select_of_answer {q : PageQuery} {rows : List Row} (h : t.answer q = .ok rows) :
    ∃ matching, t.select q.filter? = .ok matching ∧ ordered q.order? matching = rows := by
  obtain ⟨matching, hmatching, -, hordered⟩ := answer_eq_ok.1 h
  exact ⟨matching, hmatching, by rw [ordered, hordered, Option.getD_some]⟩

theorem fetch_eq (t : Table) (q : PageQuery) : t.fetch q = (t.answer q).map q.cut := by
  rw [fetch, answer]
  cases t.select q.filter? with
  | error e => rfl
  | ok rows =>
    simp only [mapError_ok, bind, Except.bind]
    cases t.arrange rows q.order? <;> rfl

theorem length_select_le {rows : List Row} (h : t.select filter? = .ok rows) :
    rows.length ≤ t.rows.length := by
  rcases filter? with _ | (p | s)
  · cases h
    exact Nat.le_refl _
  · cases h
    exact List.length_filter_le ..
  · obtain ⟨p?, -, h⟩ := bind_eq_ok.1 h
    cases p? with
    | none =>
      cases h
      exact Nat.le_refl _
    | some p =>
      cases h
      exact List.length_filter_le ..

/-- A filter that is compiled beforehand selects the same rows. -/
theorem select_of_compiled {compiled? : Option RowFilter} (h : t.compiled filter? = .ok compiled?) :
    ∃ rows, t.select filter? = .ok rows ∧ t.select compiled? = .ok rows := by
  rcases filter? with _ | (p | s)
  · cases h
    exact ⟨_, rfl, rfl⟩
  · cases h
    exact ⟨_, rfl, rfl⟩
  · obtain ⟨p?, hp, rfl⟩ := map_eq_ok.1 h
    rw [select, hp]
    cases p? <;> exact ⟨_, rfl, rfl⟩

/-- A filter that cannot be compiled selects no rows. -/
theorem select_of_not_compiled {e : FilterError} (h : t.compiled filter? = .error e) :
    t.select filter? = .error e := by
  rcases filter? with _ | (p | s)
  · cases h
  · cases h
  · rw [compiled] at h
    rw [select]
    cases hp : Predicate.compile t.mode t.schema.resolve s with
    | error e' =>
      rw [hp] at h
      cases h
      rfl
    | ok p? =>
      rw [hp] at h
      cases h

end Table

/-- Why there is no page if there is no answer. -/
def PageError.ofTable : TableFault → PageError TableFault
  | .filter e => .filter e
  | .disorder => .source .disorder

namespace PageRequest

variable (r : PageRequest) (t : Table) (filter? : Option RowFilter)

theorem prepare_table : r.prepare t.source filter? = (do
    let compiled? ← t.compiled (r.query filter?).filter?
    t.checkOrder (r.query filter?).order?
    return { r.query filter? with filter? := compiled? }) := by
  rw [prepare]
  generalize r.query filter? = q
  obtain ⟨filter?, offset, limit?, order?⟩ := q
  rcases filter? with _ | (p | s)
  all_goals
    refine congrArg (Bind.bind _) (funext fun compiled? => ?_)
    cases order? with
    | none => rfl
    | some order =>
      have hresolve : (t.source.resolve order.column).isNone =
        (t.schema.types.get? order.column).isNone := Option.isNone_map
      simp only [hresolve, Table.checkOrder]
      split <;> rfl

/-- What a request gets from a table: a part of the answer, with the count of all of it. -/
theorem page_table :
    r.page t.source filter? = ((t.answer (r.query filter?)).mapError .ofTable).map fun rows =>
      { count := rows.length, next? := r.next? rows.length, prev? := r.prev?,
        rows := (r.query filter?).cut rows } := by
  have hprepare := prepare_table r t filter?
  -- The answer selects before the order is checked, but nothing can fail between these two once the
  -- filter has been compiled, so that the same fault comes first on both sides.
  rw [Table.answer]
  cases hcompiled : t.compiled (r.query filter?).filter? with
  | error e =>
    rw [hcompiled] at hprepare
    rw [page, hprepare, Table.select_of_not_compiled hcompiled]
    rfl
  | ok compiled? =>
    obtain ⟨rows, hrows, hselect⟩ := Table.select_of_compiled hcompiled
    rw [hcompiled] at hprepare
    rw [hrows]
    have harrange := Table.arrange_eq t rows (r.query filter?).order?
    cases horder : t.checkOrder (r.query filter?).order? with
    | error e =>
      rw [horder] at hprepare harrange
      simp only [mapError_ok, bind, Except.bind, harrange]
      rw [page, hprepare]
      rfl
    | ok _ =>
      rw [horder] at hprepare harrange
      have hcount : t.source.count compiled? = .ok rows.length := by
        show ((t.select compiled?).map List.length).mapError _ = _
        rw [hselect]
        rfl
      have hfetch : t.source.fetch { r.query filter? with filter? := compiled? } =
          (t.arrange rows (r.query filter?).order?).map (r.query filter?).cut := by
        show t.fetch _ = _
        rw [Table.fetch_eq, Table.answer]
        simp only [hselect]
        rfl
      rw [page, hprepare]
      simp only [bind, Except.bind, pure, Except.pure, mapError_ok, hcount, hfetch, harrange]
      cases hordered : Table.ordered? (r.query filter?).order? rows with
      | none => rfl
      | some out =>
        have hlength := (Table.ordered?_perm _ hordered).length_eq
        simp only [mapError_ok, Except.map, hlength]

end PageRequest

end RowQuery
