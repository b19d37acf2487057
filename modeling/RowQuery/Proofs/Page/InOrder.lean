import Mathlib.Control.Monad.Basic
import RowQuery.Proofs.Filter.Matching
import RowQuery.Proofs.Page.Answer
import RowQuery.Proofs.Page.CellOrder
import RowQuery.Proofs.Rows.Loading
import RowQuery.Proofs.Sorting.Insertion

/-!
# Rows in order

The cells of a column that is loaded from data are empty or hold readable values of the column's
type. If that is not the type of floats, their order is total, and so there is one list of rows in
order: those with a cell that is not empty in the direction asked for, the others behind them, and
rows with the same cell as they stood. A table sorts to this list, and a page is cut out of it.

* `Table.consistent_precedes`: the order of rows by readable cells;
* `Table.inOrder_iff`: the list of rows in order;
* `Table.sorted?_eq`: what a table sorts to;
* `Table.fetch_in_order`: the rows that a query gets.
-/

namespace RowQuery

/-- Whether two cells, in this order, are in order in a direction. -/
def Direction.admits : Direction → Option Ordering → Bool
  | ascending, order? => atMost order?
  | descending, order? => atLeast order?

/-- Whether a list holds rows in order: all of them; those with an empty cell last; the others in
    the direction asked for; and both those with equal cells and those with an empty cell as they
    stood. -/
structure InOrder (order : SortOrder) (rows out : List Row) : Prop where
  perm : out.Perm rows
  emptyLast : out.Pairwise fun a b =>
    (a.value order.column).isNull = true → (b.value order.column).isNull = true
  directed : out.Pairwise fun a b =>
    (a.value order.column).isNull = false → (b.value order.column).isNull = false →
      order.direction.admits ((a.value order.column).compare? (b.value order.column)) = true
  equal : ∀ a ∈ rows,
    out.filter (fun b => (a.value order.column).compare? (b.value order.column) == some .eq) =
      rows.filter fun b => (a.value order.column).compare? (b.value order.column) == some .eq
  empty : out.filter (fun b => (b.value order.column).isNull) =
    rows.filter fun b => (b.value order.column).isNull

/-! ## Readable cells -/

namespace Value

/-- Whether a cell of a column is as a column loaded from data has it: empty, or with a value that
    its type reads. -/
def Fits (type : ColumnType) (v : Value) : Prop :=
  v.isNull = true ∨ v.Readable type

variable {type : ColumnType} {v : Value}

theorem Fits.readable (h : v.Fits type) (hv : v.isNull = false) : v.Readable type := by
  refine h.resolve_left fun hnull => ?_
  rw [hv] at hnull
  cases hnull

/-- There is no float among readable values. -/
theorem floatsAgree_of_fits {vs : List Value} (h : ∀ v ∈ vs, v.Fits type) : FloatsAgree vs := by
  intro x hx
  rcases h _ hx with h | h <;> cases h

end Value

namespace Table

open Value (Fits)

variable {type : ColumnType} {direction : Direction} {a b c : Value}

theorem cellOrder_trans_of_fits (ha : a.Fits type) (hb : b.Fits type) (hc : c.Fits type)
    (hab : cellOrder direction a b ≠ .gt) (hbc : cellOrder direction b c ≠ .gt) :
    cellOrder direction a c ≠ .gt := by
  refine cellOrder_trans ?_ hab hbc
  rcases ha with ha' | ha'
  · exact .inl ha'
  rcases hb with hb' | hb'
  · exact .inr (.inl hb')
  rcases hc with hc' | hc'
  · exact .inr (.inr (.inl hc'))
  have hfits : ∀ v ∈ [a, b, c], v.Fits type := by
    simp only [List.forall_mem_cons]
    exact ⟨.inr ha', .inr hb', .inr hc', List.forall_mem_nil _⟩
  exact .inr (.inr (.inr ⟨Option.isSome_iff_exists.2 (ha'.exists_compare? hb'),
    Option.isSome_iff_exists.2 (hb'.exists_compare? hc'), Value.floatsAgree_of_fits hfits⟩))

/-- What it is that a cell need not stand behind another. -/
theorem cellOrder_ne_gt_iff (ha : a.Fits type) (hb : b.Fits type) :
    cellOrder direction a b ≠ .gt ↔ (a.isNull = true → b.isNull = true) ∧
      (a.isNull = false → b.isNull = false → direction.admits (a.compare? b) = true) := by
  cases ha' : a.isNull with
  | true =>
    rw [cellOrder, ha']
    cases b.isNull <;> simp
  | false =>
    cases hb' : b.isNull with
    | true => simp [cellOrder_ne_gt_of_isNull hb']
    | false =>
      obtain ⟨o, ho⟩ := (ha.readable ha').exists_compare? (hb.readable hb')
      cases direction with
      | ascending =>
        rw [cellOrder_ascending ho, ho]
        cases o <;> simp [Direction.admits, atMost]
      | descending =>
        rw [cellOrder_descending ho, ho]
        cases o <;> simp [Direction.admits, atLeast]

/-- What it is that two cells are not told apart. -/
theorem cellOrder_eq_iff (ha : a.Fits type) (hb : b.Fits type) (ha' : a.isNull = false) :
    cellOrder direction a b = .eq ↔ a.compare? b = some .eq := by
  cases hb' : b.isNull with
  | true =>
    have hnone : a.compare? b ≠ some .eq := by
      intro h
      rw [(Value.isNull_of_compare? h).2] at hb'
      cases hb'
    rw [cellOrder, ha', hb']
    exact iff_of_false Ordering.noConfusion hnone
  | false =>
    obtain ⟨o, ho⟩ := (ha.readable ha').exists_compare? (hb.readable hb')
    cases direction with
    | ascending => rw [cellOrder_ascending ho, ho, Option.some.injEq]
    | descending =>
      rw [cellOrder_descending ho, ho, Option.some.injEq]
      cases o <;> simp

/-! ## Rows of readable cells -/

/-- Whether the cells of a column fit its type. -/
def FitsColumn (column : String) (type : ColumnType) (rows : List Row) : Prop :=
  ∀ row ∈ rows, (row.value column).Fits type

variable {order : SortOrder} {rows out : List Row}

theorem precedes_eq_false_iff {a b : Row} : precedes order b a = false ↔
    cellOrder order.direction (a.value order.column) (b.value order.column) ≠ .gt := by
  rw [precedes, beq_eq_false_iff_ne, cellOrder_swap, ne_eq, ne_eq, Ordering.swap_eq_lt]

theorem alike_precedes_iff {a b : Row} : Sorting.alike (precedes order) a b = true ↔
    cellOrder order.direction (a.value order.column) (b.value order.column) = .eq := by
  rw [Sorting.alike, Bool.and_eq_true, Bool.not_eq_true', Bool.not_eq_true',
    precedes_eq_false_iff (a := a), precedes, beq_eq_false_iff_ne]
  cases cellOrder order.direction (a.value order.column) (b.value order.column) <;> simp

/-- Cells that fit their column tell rows apart consistently. -/
theorem consistent_precedes (h : FitsColumn order.column type rows) :
    Sorting.Consistent (precedes order) rows where
  asymm a _ b _ hab := by
    have hab : cellOrder _ _ _ = .lt := beq_iff_eq.1 hab
    rw [precedes_eq_false_iff, hab]
    exact nofun
  trans a ha b hb c hc hab hbc := by
    rw [precedes_eq_false_iff] at hab hbc ⊢
    exact cellOrder_trans_of_fits (h c hc) (h b hb) (h a ha) hbc hab

/-- In which order the rows are, told by their cells. -/
theorem pairwise_precedes_iff (h : FitsColumn order.column type rows) (hperm : out.Perm rows) :
    (out.Pairwise fun a b => precedes order b a = false) ↔
      (out.Pairwise fun a b =>
        (a.value order.column).isNull = true → (b.value order.column).isNull = true) ∧
      out.Pairwise fun a b =>
        (a.value order.column).isNull = false → (b.value order.column).isNull = false →
          order.direction.admits ((a.value order.column).compare? (b.value order.column)) =
            true := by
  rw [← List.pairwise_and_iff]
  refine List.Pairwise.iff_of_mem fun {a b} ha hb => ?_
  rw [precedes_eq_false_iff]
  exact cellOrder_ne_gt_iff (h a (hperm.mem_iff.1 ha)) (h b (hperm.mem_iff.1 hb))

/-- The rows that are not told apart from one with an empty cell. -/
theorem filter_alike_of_isNull {a : Row} (ha : (a.value order.column).isNull = true)
    (list : List Row) : list.filter (Sorting.alike (precedes order) a) =
      list.filter fun b => (b.value order.column).isNull := by
  refine List.filter_congr fun b _ => ?_
  rw [Bool.eq_iff_iff, alike_precedes_iff, cellOrder, ha]
  cases (b.value order.column).isNull <;> simp

/-- The rows that are not told apart from one with a cell that is not empty. -/
theorem filter_alike_of_not_isNull {a : Row} (h : FitsColumn order.column type rows) (ha : a ∈ rows)
    (ha' : (a.value order.column).isNull = false) {list : List Row} (hlist : list ⊆ rows) :
    list.filter (Sorting.alike (precedes order) a) =
      list.filter fun b => (a.value order.column).compare? (b.value order.column) == some .eq := by
  refine List.filter_congr fun b hb => ?_
  rw [Bool.eq_iff_iff, alike_precedes_iff, beq_iff_eq]
  exact cellOrder_eq_iff (h a ha) (h b (hlist hb)) ha'

/-- The list of rows in order is the one that keeps rows that are not told apart as they stood. -/
theorem inOrder_iff_stable (h : FitsColumn order.column type rows) :
    InOrder order rows out ↔ Sorting.Stable (precedes order) rows out := by
  constructor
  · intro hout
    refine ⟨hout.perm,
      (pairwise_precedes_iff h hout.perm).2 ⟨hout.emptyLast, hout.directed⟩, fun a ha => ?_⟩
    cases ha' : (a.value order.column).isNull with
    | true => rw [filter_alike_of_isNull ha', filter_alike_of_isNull ha', hout.empty]
    | false =>
      rw [filter_alike_of_not_isNull h ha ha' hout.perm.subset,
        filter_alike_of_not_isNull h ha ha' (List.Subset.refl _), hout.equal a ha]
  · intro hout
    obtain ⟨hempty, hdirected⟩ := (pairwise_precedes_iff h hout.perm).1 hout.sorted
    refine ⟨hout.perm, hempty, hdirected, fun a ha => ?_, hout.filter_eq fun a _ b _ ha hb => ?_⟩
    · cases ha' : (a.value order.column).isNull with
      | true =>
        refine hout.filter_eq fun b _ _ _ hab _ => ?_
        rw [(Value.isNull_of_compare? (beq_iff_eq.1 hab)).1] at ha'
        cases ha'
      | false =>
        rw [← filter_alike_of_not_isNull h ha ha' hout.perm.subset,
          ← filter_alike_of_not_isNull h ha ha' (List.Subset.refl _), hout.keeps a ha]
    · rw [precedes, cellOrder, ha, hb]
      rfl

/-- There is one list of rows in order: what insertion makes of them. -/
theorem inOrder_iff (h : FitsColumn order.column type rows) :
    InOrder order rows out ↔ out = Sorting.insertion (precedes order) rows :=
  (inOrder_iff_stable h).trans (Sorting.stable_iff (consistent_precedes h))

/-- Cells that fit their column are comparable. -/
theorem comparable_of_fits {column : String} (h : FitsColumn column type rows) :
    comparable column rows = true := by
  rw [comparable]
  generalize hcells : (rows.map fun r => r.value column).filter (fun v => !v.isNull) = cells
  have hreadable : ∀ v ∈ cells, v.Readable type := by
    intro v hv
    rw [← hcells, List.mem_filter, Bool.not_eq_true'] at hv
    obtain ⟨row, hrow, rfl⟩ := List.mem_map.1 hv.1
    exact (h row hrow).readable hv.2
  refine List.all_eq_true.2 fun v hv => ?_
  obtain ⟨w, hw⟩ := Option.isSome_iff_exists.1 (List.isSome_head?.2 (List.ne_nil_of_mem hv))
  have htype := (hreadable w (List.mem_of_mem_head? hw)).type?_eq
  obtain ⟨o, ho⟩ := (hreadable v hv).exists_compare? (hreadable v hv)
  rw [hw, Option.bind_some, htype, (hreadable v hv).type?_eq, ho]
  simp

/-- What a table sorts to, if the cells fit their column. -/
theorem sorted?_eq (h : FitsColumn order.column type rows) :
    sorted? order rows = some (Sorting.insertion (precedes order) rows) := by
  rw [sorted?, if_pos (comparable_of_fits h)]

/-! ## The rows of a query -/

/-- The predicate that a filter stands for, if it is not an empty one. -/
def predicate? (t : Table) : Option RowFilter → Except FilterError (Option Predicate)
  | none => .ok none
  | some (.predicate p) => .ok (some p)
  | some (.text s) => Predicate.compile t.mode t.schema.resolve s

/-- The rows on which a predicate holds, as they stand: all of them if there is none. -/
def matching (t : Table) (predicate? : Option Predicate) : List Row :=
  t.rows.filter fun row => predicate?.all (·.holds row)

theorem select_eq (t : Table) (filter? : Option RowFilter) :
    t.select filter? = (t.predicate? filter?).map t.matching := by
  have hnone : t.matching none = t.rows := List.filter_eq_self.2 fun _ _ => rfl
  have hsome : ∀ p, (Matcher.ofPredicate p).filter t.rows = t.matching (some p) :=
    fun p => List.filter_congr fun row _ => Matcher.accepts_eq_holds p row
  rcases filter? with _ | (p | s)
  · exact congrArg Except.ok hnone.symm
  · exact congrArg Except.ok (hsome p)
  · rw [select, predicate?]
    cases Predicate.compile t.mode t.schema.resolve s with
    | error e => rfl
    | ok p? =>
      cases p? with
      | none => exact congrArg Except.ok hnone.symm
      | some p => exact congrArg Except.ok (hsome p)

/-- The cells of a table that is loaded from data fit their columns. -/
theorem fitsColumn_of_ofObjects {schema? : Option Schema} {mode : Mode} {objects : List Members}
    {t : Table} (h : ofObjects schema? mode objects = .ok t) {column : String}
    (hcolumn : t.schema.types.get? column = some type) (htype : type ≠ .float) :
    FitsColumn column type t.rows := by
  obtain ⟨rows, hrows, ht⟩ := bind_eq_ok.1 h
  cases ht
  have hrow : ∀ members row, (schema?.getD (Schema.infer objects)).rowOfObject members = .ok row →
      (row.value column).Fits type := by
    intro members row hrow
    cases hnull : (row.value column).isNull with
    | true => exact .inl hnull
    | false =>
      refine .inr (Schema.readable_of_rowOfObject hcolumn htype hrow fun h => ?_)
      rw [h] at hnull
      cases hnull
  exact forall_mem_of_mapM hrow hrows

theorem FitsColumn.matching {t : Table} {column : String} (h : FitsColumn column type t.rows)
    (predicate? : Option Predicate) : FitsColumn column type (t.matching predicate?) :=
  fun row hrow => h row (List.mem_filter.1 hrow).1

/-- The rows that a query gets from a table that is loaded from data, with a filter that compiles
    and an order, if any, by a column that is there and not of floats. They are the part that the
    query asks for, of the rows on which the predicate holds as they stand if no order is asked for,
    and of the one list of these rows in order if one is. -/
theorem fetch_in_order {schema? : Option Schema} {mode : Mode} {objects : List Members} {t : Table}
    {q : PageQuery} {predicate? : Option Predicate} (ht : ofObjects schema? mode objects = .ok t)
    (hfilter : t.predicate? q.filter? = .ok predicate?) :
    (q.order? = none → t.fetch q = .ok (q.cut (t.matching predicate?))) ∧
    ∀ order type, q.order? = some order → t.schema.types.get? order.column = some type →
      type ≠ .float → ∃ out, (∀ out', InOrder order (t.matching predicate?) out' ↔ out' = out) ∧
        t.fetch q = .ok (q.cut out) := by
  have hselect : t.select q.filter? = .ok (t.matching predicate?) := by
    rw [select_eq, hfilter]
    rfl
  refine ⟨fun horder => ?_, fun order type horder hcolumn htype => ?_⟩
  · have hanswer : t.answer q = .ok (t.matching predicate?) :=
      answer_eq_ok.2 ⟨_, hselect, by rw [horder]; rfl, by rw [horder]; rfl⟩
    rw [fetch_eq, hanswer]
    rfl
  · have hfits := (fitsColumn_of_ofObjects ht hcolumn htype).matching predicate?
    refine ⟨_, fun out' => inOrder_iff hfits, ?_⟩
    have hcheck : t.checkOrder (some order) = .ok () := by
      rw [checkOrder, hcolumn]
      rfl
    have hanswer : t.answer q = .ok (Sorting.insertion (precedes order) (t.matching predicate?)) :=
      answer_eq_ok.2 ⟨_, hselect, by rw [horder, hcheck], by rw [horder]; exact sorted?_eq hfits⟩
    rw [fetch_eq, hanswer]
    rfl

/-- From the greatest number to the least and from the second row on, of the rows with a name: two
    rows with the same number, as they stand, and one without. -/
theorem fetch_in_order_descending :
    let object (name : Json) (n : Json) : Members := [("name", name), ("n", n)]
    let objects := [object (.string "a") .null, object (.string "b") (.int 1),
      object .null (.int 7), object (.string "c") (.int 2), object (.string "d") (.int 1)]
    let row (name : String) (n : Value) : Row := Named.ofList [("n", n), ("name", .text name)]
    let order : SortOrder := ⟨"n", .descending⟩
    ∃ t p out, ofObjects none .lenient objects = .ok t ∧
      t.predicate? (some (.text "name:gte:a")) = .ok (some p) ∧
      InOrder order (t.matching (some p)) out ∧
      t.fetch ⟨some (.text "name:gte:a"), 1, some 3, some order⟩ = .ok ((out.drop 1).take 3) ∧
      (out.drop 1).take 3 = [row "b" (.int 1), row "d" (.int 1), row "a" .null] := by
  intro object objects row order
  let t : Table := ⟨⟨Named.ofList [("n", .integer), ("name", .text)]⟩,
    [row "a" .null, row "b" (.int 1), Named.ofList [("n", .int 7), ("name", .null)],
      row "c" (.int 2), row "d" (.int 1)], .lenient⟩
  let p : Predicate := .compare ⟨"name", .gte, .scalar (.text "a")⟩
  let q : PageQuery := ⟨some (.text "name:gte:a"), 1, some 3, some order⟩
  have ht : ofObjects none .lenient objects = .ok t := by decide +kernel
  have hfilter : t.predicate? q.filter? = .ok (some p) := by decide +kernel
  have hfetch : t.fetch q = .ok [row "b" (.int 1), row "d" (.int 1), row "a" .null] := by
    decide +kernel
  have hcolumn : t.schema.types.get? order.column = some .integer := by decide +kernel
  obtain ⟨out, hout, hpage⟩ := (fetch_in_order ht hfilter).2 order .integer rfl hcolumn (by decide)
  rw [PageQuery.cut_of_limit rfl] at hpage
  have hrows := Except.ok.inj (hpage.symm.trans hfetch)
  exact ⟨t, p, out, ht, hfilter, (hout out).2 rfl, hpage, hrows⟩

end Table

end RowQuery
