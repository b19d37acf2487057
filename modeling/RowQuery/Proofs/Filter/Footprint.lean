import RowQuery.Proofs.Filter.Typing

/-!
# The footprint of a predicate

Two traversals of a predicate meet here: one that lists its columns, and evaluation, which looks
cells up in a row. Whatever the predicate is like, evaluation looks at no cell outside of the listed
columns. So rows that hold the same values there are judged alike, however they differ elsewhere,
and a column that is not there is as good as an empty one.

* `Row.AgreeOn`: rows that hold the same values in some columns;
* `Predicate.eval_of_agreeOn`: evaluation on such rows;
* `Matcher.accepts_of_agreeOn`: a matcher, on rows that agree on the columns of its predicate;
* `Matcher.filter_map_of_agreeOn`, `Matcher.filter_map_insert`: rows that are changed elsewhere are
  kept as they were before.
-/

namespace RowQuery

/-- Two rows hold the same values in some columns. A column that a row has not is empty. -/
def Row.AgreeOn (columns : List String) (r s : Row) : Prop :=
  ∀ name ∈ columns, r.value name = s.value name

variable {like : String → List Char → Bool} {p : Predicate} {r s : Row}

namespace Row

theorem AgreeOn.mono {columns columns' : List String} (h : AgreeOn columns r s)
    (hsub : columns' ⊆ columns) : AgreeOn columns' r s :=
  fun name hname => h name (hsub hname)

/-- To write into a column changes no other one. -/
theorem agreeOn_insert {columns : List String} {name : String} (hname : name ∉ columns) (v : Value) :
    AgreeOn columns (r.insert name v) r := by
  intro other hother
  have hne : other ≠ name := fun h => hname (h ▸ hother)
  rw [value, value, Named.get?_insert_of_ne r v hne]

end Row

/-- A comparison looks at one cell. -/
theorem Comparison.eval_of_value_eq {c : Comparison} (h : r.value c.column = s.value c.column) :
    c.eval like r = c.eval like s := by
  rw [eval, eval, evalOr, evalOr, h]

/-- Evaluation looks at the columns of the predicate only. -/
theorem Predicate.eval_of_agreeOn (h : r.AgreeOn p.columns s) : p.eval like r = p.eval like s := by
  induction p with
  | compare c =>
    rw [columns_compare] at h
    exact Comparison.eval_of_value_eq (h c.column (List.mem_singleton_self _))
  | and l r ihl ihr =>
    have hl := ihl (h.mono fun _ hname => mem_columns_and.2 (.inl hname))
    have hr := ihr (h.mono fun _ hname => mem_columns_and.2 (.inr hname))
    rw [eval, eval, hl, hr]
  | or l r ihl ihr =>
    have hl := ihl (h.mono fun _ hname => mem_columns_or.2 (.inl hname))
    have hr := ihr (h.mono fun _ hname => mem_columns_or.2 (.inr hname))
    rw [eval, eval, hl, hr]
  | not p ih => rw [eval, eval, ih h]

namespace Matcher

/-- Rows that are changed outside of the columns of a predicate are kept as they were before. -/
theorem filter_map_of_agreeOn {change : Row → Row} (h : ∀ r, (change r).AgreeOn p.columns r)
    (rows : List Row) :
    (ofPredicate p).filter (rows.map change) = ((ofPredicate p).filter rows).map change := by
  rw [filter, filter, List.filter_map]
  exact congrArg _ (List.filter_congr fun r _ => Predicate.eval_of_agreeOn (h r))

/-- A column that a predicate does not name may be written to before rows are kept, or after. -/
theorem filter_map_insert {name : String} (hname : name ∉ p.columns) (v : Value)
    (rows : List Row) : (ofPredicate p).filter (rows.map (·.insert name v)) =
      ((ofPredicate p).filter rows).map (·.insert name v) :=
  filter_map_of_agreeOn (fun _ => Row.agreeOn_insert hname v) rows

/-- A matcher judges rows alike that agree on the columns of its predicate. -/
theorem accepts_of_agreeOn (h : r.AgreeOn p.columns s) :
    (ofPredicate p).accepts r = (ofPredicate p).accepts s :=
  Predicate.eval_of_agreeOn h

/-- `NOT name LIKE 'a%' OR (age IS NULL AND age < 7)`, on a row with an empty age and on one without
    an age, which differ in a column beside these. -/
theorem accepts_of_agreeOn_absent_column :
    let p : Predicate := .or (.not (.compare ⟨"name", .like, .scalar (.text "a%")⟩))
      (.and (.compare ⟨"age", .is, .scalar .null⟩) (.compare ⟨"age", .lt, .scalar (.int 7)⟩))
    let r : Row := Named.ofList [("name", .text "bea"), ("age", .null), ("id", .int 1)]
    let s : Row := Named.ofList [("name", .text "bea"), ("id", .bool true)]
    p.columns = ["name", "age"] ∧ s.get? "age" = none ∧ r.value "id" ≠ s.value "id" ∧
      r.AgreeOn p.columns s ∧ (ofPredicate p).accepts r = (ofPredicate p).accepts s := by
  intro p r s
  have hcolumns : p.columns = ["name", "age"] := by decide +kernel
  have hagree : r.AgreeOn p.columns s := by
    rw [hcolumns]
    exact List.forall_mem_cons.2 ⟨rfl, List.forall_mem_singleton.2 rfl⟩
  refine ⟨hcolumns, rfl, ?_, hagree, accepts_of_agreeOn hagree⟩
  show Value.int 1 ≠ Value.bool true
  exact nofun

end Matcher

end RowQuery
