import RowQuery.Proofs.Filter.Groups

/-!
# Compiled predicates are well typed

The values of a compiled predicate are read by the types of their columns. So an operator meets only
operands of the shape it asks for, with values of the column's type — or with texts, which is what a
pattern is on any column, or with the null of `is null`, the only one there is. A negation stands
directly above a comparison whose operator has a negated form.

* `Operand.suits_of_read`: what is read for an operator suits it;
* `Clause.predicate_eq_ok`: which clauses make a condition with a field, and which one;
* `Predicate.wellTyped_of_compile`: a compiled predicate is well typed;
* `Predicate.mem_columns_and` and its like: which columns a predicate reads.
-/

namespace RowQuery

/-! ## Operands that suit their operators -/

/-- The operands that an operator takes on a column of type `t`. -/
inductive Operand.Suits (t : ColumnType) : Operator → Operand → Prop
  | isNull : Suits t .is (.scalar .null)
  | is {v : Value} (hv : v.type? = some t) : Suits t .is (.scalar v)
  | order {op : Operator} {v : Value} (hop : op ∈ [.eq, .gt, .gte, .lt, .lte])
      (hv : v.type? = some t) : Suits t op (.scalar v)
  | like (s : String) : Suits t .like (.scalar (.text s))
  | likeAny {ss : List String} (hss : 2 ≤ ss.length) : Suits t .like (.list (ss.map .text))
  | isIn {vs : List Value} (hne : vs ≠ []) (hvs : ∀ v ∈ vs, v.type? = some t) :
      Suits t .isIn (.list vs)
  | between {low high : Value} (hlow : low.type? = some t) (hhigh : high.type? = some t) :
      Suits t .between (.range low high)

/-- A value that is read by a type is of that type. -/
theorem ColumnType.type?_of_read? {t : ColumnType} {s : List Char} {v : Value}
    (h : t.read? s = some v) : v.type? = some t := by
  cases t with
  | text =>
    cases h
    rfl
  | _ =>
    obtain ⟨a, _, rfl⟩ := Option.map_eq_some_iff.1 h
    rfl

namespace Operand

variable {column : Column} {t : ColumnType} {s : List Char}

theorem type?_of_readValue {v : Value} (h : readValue column t s = .ok v) : v.type? = some t := by
  rw [readValue] at h
  cases hr : t.read? s with
  | none =>
    rw [hr] at h
    cases h
  | some w =>
    rw [hr] at h
    cases h
    exact ColumnType.type?_of_read? hr

/-- A list that is read has an item for each item that is written, one at least. -/
theorem readList_spec {vs : List Value} (h : readList column t s = .ok vs) :
    vs.length = (Literal.splitList s).length ∧ vs ≠ [] ∧ ∀ v ∈ vs, v.type? = some t := by
  rw [readList] at h
  split at h
  · cases h
  · have hlength : vs.length = (Literal.splitList s).length := by
      have := map_eq_of_mapM (r := fun _ => ()) (s := fun _ => ()) (fun _ _ _ => rfl) h
      simpa using congrArg List.length this
    refine ⟨hlength, ?_, forall_mem_of_mapM (fun _ _ => type?_of_readValue) h⟩
    rintro rfl
    exact Literal.splitList_ne_nil s (List.eq_nil_of_length_eq_zero hlength.symm)

/-- Values of type text are texts. -/
theorem exists_texts {vs : List Value} (h : ∀ v ∈ vs, v.type? = some .text) :
    ∃ ss : List String, vs = ss.map .text := by
  induction vs with
  | nil => exact ⟨[], rfl⟩
  | cons v vs ih =>
    obtain ⟨hv, hvs⟩ := List.forall_mem_cons.1 h
    obtain ⟨ss, rfl⟩ := ih hvs
    cases v with
    | text s => exact ⟨s :: ss, rfl⟩
    | _ => cases hv

/-- What is read for an operator suits it. -/
theorem suits_of_read {op : Operator} {value : String} {operand : Operand}
    (h : Operand.read column op value = .ok operand) : operand.Suits column.type op := by
  rw [Operand.read] at h
  generalize Literal.stripQuotes value.toList = stripped at h
  obtain ⟨inner, quoted⟩ := stripped
  cases op with
  | is =>
    simp only at h
    split at h
    · cases h
      exact .isNull
    · obtain ⟨v, hv, rfl⟩ := map_eq_ok.1 h
      exact .is (type?_of_readValue hv)
  | like =>
    simp only at h
    split at h
    · rename_i hmany
      obtain ⟨vs, hvs, rfl⟩ := map_eq_ok.1 h
      obtain ⟨hlength, -, htext⟩ := readList_spec hvs
      obtain ⟨ss, rfl⟩ := exists_texts htext
      refine .likeAny ?_
      rw [List.length_map] at hlength
      rw [hlength]
      exact of_decide_eq_true (Bool.and_eq_true_iff.1 hmany).2
    · cases h
      exact .like _
  | isIn =>
    obtain ⟨vs, hvs, rfl⟩ := map_eq_ok.1 h
    obtain ⟨-, hne, htype⟩ := readList_spec hvs
    exact .isIn hne htype
  | between =>
    obtain ⟨vs, hvs, h⟩ := bind_eq_ok.1 h
    obtain ⟨-, -, htype⟩ := readList_spec hvs
    split at h
    · cases h
      exact .between (htype _ (by simp)) (htype _ (by simp))
    · cases h
  | _ =>
    obtain ⟨v, hv, rfl⟩ := map_eq_ok.1 h
    exact .order (by decide) (type?_of_readValue hv)

end Operand

/-! ## Predicates -/

/-- Which clauses make a condition with a field, and which one. -/
theorem Clause.predicate_eq_ok {resolve : Resolver} {field : String} {c : Clause} {p : Predicate} :
    c.predicate resolve field = .ok p ↔ ∃ column operand, resolve field = some column ∧
      (c.negated = true → c.operator.invertible = true) ∧
      Operand.read column c.operator c.value = .ok operand ∧
      p = if c.negated then .not (.compare ⟨column.name, c.operator, operand⟩)
        else .compare ⟨column.name, c.operator, operand⟩ := by
  rw [Clause.predicate]
  cases hf : resolve field with
  | none => exact ⟨nofun, fun ⟨_, _, h, _⟩ => nomatch h⟩
  | some column =>
    cases hn : (c.negated && !c.operator.invertible) with
    | true =>
      have hnot : ¬ (c.negated = true → c.operator.invertible = true) := by
        simpa using hn
      simp only [if_true]
      exact ⟨nofun, fun ⟨_, _, _, h, _⟩ => absurd h hnot⟩
    | false =>
      have hok : c.negated = true → c.operator.invertible = true := by
        simpa using hn
      simp only [Bool.false_eq_true, if_false]
      constructor
      · intro h
        obtain ⟨operand, hread, h⟩ := bind_eq_ok.1 h
        exact ⟨column, operand, rfl, hok, hread, (Except.ok.inj h).symm⟩
      · rintro ⟨_, operand, hcolumn, -, hread, rfl⟩
        cases hcolumn
        exact bind_eq_ok.2 ⟨operand, hread, rfl⟩

namespace Predicate

/-- The predicates that filters compile to. -/
inductive WellTyped (resolve : Resolver) : Predicate → Prop
  | compare {field : String} {column : Column} {op : Operator} {operand : Operand}
      (hf : resolve field = some column) (ho : operand.Suits column.type op) :
      WellTyped resolve (.compare ⟨column.name, op, operand⟩)
  | not {c : Comparison} (hop : c.operator.invertible) (hc : WellTyped resolve (.compare c)) :
      WellTyped resolve (.not (.compare c))
  | and {l r : Predicate} (hl : WellTyped resolve l) (hr : WellTyped resolve r) :
      WellTyped resolve (.and l r)
  | or {l r : Predicate} (hl : WellTyped resolve l) (hr : WellTyped resolve r) :
      WellTyped resolve (.or l r)

variable {resolve : Resolver}

theorem wellTyped_of_clause {field : String} {c : Clause} {p : Predicate}
    (h : c.predicate resolve field = .ok p) : p.WellTyped resolve := by
  obtain ⟨column, operand, hf, hinvertible, hread, rfl⟩ := Clause.predicate_eq_ok.1 h
  -- The comparison itself, above which a negation may stand.
  have hleaf := WellTyped.compare hf (Operand.suits_of_read hread)
  split
  · rename_i hnegated
    exact .not (hinvertible hnegated) hleaf
  · exact hleaf

/-- A compiled predicate is well typed. -/
theorem wellTyped_of_compile {mode : Mode} {filter : String} {p : Predicate}
    (h : compile mode resolve filter = .ok (some p)) : p.WellTyped resolve := by
  obtain ⟨cs, _, h⟩ := bind_eq_ok.1 h
  refine ofClauses_induction (fun _ _ _ => wellTyped_of_clause) (fun k p q hp hq => ?_) h
  cases k with
  | and => exact .and hp hq
  | or => exact .or hp hq

/-! ## Columns -/

theorem columns_compare (c : Comparison) : (compare c).columns = [c.column] :=
  rfl

/-- Beside the columns met before, those of the predicate itself. -/
theorem mem_addColumns {p : Predicate} {met : List String} {x : String} :
    x ∈ p.addColumns met ↔ x ∈ met ∨ x ∈ p.columns := by
  induction p generalizing met with
  | compare c =>
    rw [addColumns, columns_compare, List.mem_singleton]
    split
    · rename_i h
      refine ⟨.inl, fun hx => hx.elim id ?_⟩
      rintro rfl
      exact h
    · rw [List.mem_append, List.mem_singleton]
  | and l r ihl ihr | or l r ihl ihr =>
    simp only [columns] at ihl ihr ⊢
    rw [addColumns, addColumns, ihr, ihl, @ihr (l.addColumns []), or_assoc]
  | not p ih => exact ih

theorem mem_columns_and {l r : Predicate} {x : String} :
    x ∈ (and l r).columns ↔ x ∈ l.columns ∨ x ∈ r.columns :=
  mem_addColumns (p := r)

theorem mem_columns_or {l r : Predicate} {x : String} :
    x ∈ (or l r).columns ↔ x ∈ l.columns ∨ x ∈ r.columns :=
  mem_addColumns (p := r)

end Predicate

end RowQuery
