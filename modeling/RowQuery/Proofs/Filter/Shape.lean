import Mathlib.Data.List.Forall2
import RowQuery.Filter.Sql
import RowQuery.Proofs.Filter.Fields
import RowQuery.Proofs.Filter.Typing

/-!
# The shape of compiled predicates

A compiled predicate has one comparison for each clause, in the order of the clauses: of the column
that answers to the field in force, with an operand that suits the operator and the column's type.
Its columns are therefore those of the fields in force. Evaluation, SQL and the text of a predicate
each give some answer for an operand that does not suit its operator; as none is compiled, these
answers are never given: with another answer in their place (`Comparison.evalOr`,
`Sql.comparisonOr`, `Comparison.textOr`) nothing changes.

* `step_comparisons`, `foldlM_comparisons`: what one clause adds to a predicate, and what a list of
  clauses does;
* `addColumns_eq`: the columns of a predicate are those of its comparisons, without repetition;
* `covered_of_suits`: an operand that suits its operator is never passed over;
* `compile_shape`: all this, of what a filter compiles to.
-/

namespace RowQuery

variable {resolve : Resolver}

/-! ## Comparisons of a predicate -/

namespace Predicate

/-- The comparisons of a predicate, from left to right. -/
def comparisons : Predicate → List Comparison
  | compare c => [c]
  | and l r | or l r => l.comparisons ++ r.comparisons
  | not p => p.comparisons

/-- The predicates that stand directly below a negation. -/
def negated : Predicate → List Predicate
  | compare _ => []
  | and l r | or l r => l.negated ++ r.negated
  | not p => p :: p.negated

theorem comparisons_join (k : Connector) (p q : Predicate) :
    (k.join p q).comparisons = p.comparisons ++ q.comparisons := by
  cases k <;> rfl

theorem comparisons_all? {ps : List Predicate} {p : Predicate} (h : all? ps = some p) :
    p.comparisons = ps.flatMap comparisons := by
  cases ps with
  | nil => cases h
  | cons q qs =>
    obtain rfl : qs.foldl .and q = p := Option.some.inj h
    clear h
    rw [List.flatMap_cons]
    induction qs generalizing q with
    | nil => rw [List.foldl_nil, List.flatMap_nil, List.append_nil]
    | cons r rs ih => rw [List.foldl_cons, ih, List.flatMap_cons, comparisons, List.append_assoc]

/-- Only comparisons are negated, by operators that have a negated form. -/
theorem WellTyped.negated {p : Predicate} (h : p.WellTyped resolve) :
    ∀ q ∈ p.negated, ∃ c, q = .compare c ∧ c.operator ∈ [.is, .eq, .like, .isIn] := by
  induction h with
  | compare => exact fun _ hq => absurd hq List.not_mem_nil
  | @not c hop _ _ =>
    refine List.forall_mem_singleton.2 ⟨c, rfl, ?_⟩
    revert hop
    cases c.operator <;> decide
  | and _ _ ihl ihr | or _ _ ihl ihr => exact List.forall_mem_append.2 ⟨ihl, ihr⟩

/-- The columns met beside others are those of the comparisons that are not among these, each at its
    first use. -/
theorem addColumns_eq (p : Predicate) (met : List String) : p.addColumns met =
    met ++ ((p.comparisons.map Comparison.column).filter (· ∉ met)).eraseDups := by
  induction p generalizing met with
  | compare c =>
    by_cases h : c.column ∈ met
    · simp [addColumns, comparisons, h]
    · simp [addColumns, comparisons, h, List.eraseDups_cons]
  | and l r ihl ihr | or l r ihl ihr =>
    -- What the right side adds is neither met before nor in the left side.
    have hfilter : ∀ ls rs : List String,
        rs.filter (· ∉ met ++ (ls.filter (· ∉ met)).eraseDups) =
          (rs.filter (· ∉ met)).removeAll (ls.filter (· ∉ met)) := by
      intro ls rs
      rw [List.removeAll, List.filter_filter]
      refine List.filter_congr fun x _ => ?_
      by_cases hmet : x ∈ met <;> by_cases hls : x ∈ ls <;> simp [hmet, hls]
    rw [addColumns, ihr, ihl, comparisons, List.map_append, List.filter_append,
      List.eraseDups_append, List.append_assoc, hfilter]
  | not p ih => exact ih met

theorem columns_eq (p : Predicate) :
    p.columns = (p.comparisons.map Comparison.column).eraseDups := by
  simp [columns, addColumns_eq]

end Predicate

/-! ## Comparisons of clauses -/

namespace Clause

/-- A comparison that a clause makes with its field in force: of the column that answers to the
    field, by the clause's operator, with an operand that suits this and the column's type. -/
def Makes (resolve : Resolver) (x : String × Clause) (d : Comparison) : Prop :=
  ∃ column, resolve x.1 = some column ∧ d.column = column.name ∧ d.operator = x.2.operator ∧
    d.operand.Suits column.type d.operator

/-- The comparison of the condition that a clause makes with its field in force. -/
def Gives (resolve : Resolver) (x : String × Clause) (d : Comparison) : Prop :=
  ∃ column, resolve x.1 = some column ∧ d.column = column.name ∧ d.operator = x.2.operator ∧
    Operand.read column x.2.operator x.2.value = .ok d.operand

theorem Gives.makes {x : String × Clause} {d : Comparison} (h : Gives resolve x d) :
    Makes resolve x d := by
  obtain ⟨column, hresolve, hcolumn, hoperator, hread⟩ := h
  exact ⟨column, hresolve, hcolumn, hoperator, hoperator ▸ Operand.suits_of_read hread⟩

theorem gives_of_predicate {field : String} {c : Clause} {p : Predicate}
    (h : c.predicate resolve field = .ok p) :
    ∃ d, p.comparisons = [d] ∧ Gives resolve (field, c) d := by
  obtain ⟨column, operand, hf, -, hread, rfl⟩ := predicate_eq_ok.1 h
  refine ⟨⟨column.name, c.operator, operand⟩, ?_, column, hf, rfl, rfl, hread⟩
  split <;> rfl

/-- The columns of comparisons are those that answer to the fields in force. -/
theorem columns_of_makes {xs : List (String × Clause)} {ds : List Comparison}
    (h : List.Forall₂ (Makes resolve) xs ds) : ds.map Comparison.column =
      xs.filterMap fun x => (resolve x.1).map Column.name := by
  induction h with
  | nil => rfl
  | @cons x d xs ds hx _ ih =>
    obtain ⟨column, hresolve, hcolumn, -⟩ := hx
    rw [List.map_cons, List.filterMap_cons, hresolve, hcolumn, ih]
    rfl

/-- The operands of comparisons suit their operators. -/
theorem suits_of_makes {xs : List (String × Clause)} {ds : List Comparison}
    (h : List.Forall₂ (Makes resolve) xs ds) :
    ∀ d ∈ ds, ∃ t, d.operand.Suits t d.operator := by
  induction h with
  | nil => exact fun _ hd => absurd hd List.not_mem_nil
  | cons hx _ ih =>
    obtain ⟨column, -, -, -, hsuits⟩ := hx
    exact List.forall_mem_cons.2 ⟨⟨column.type, hsuits⟩, ih⟩

end Clause

namespace Grouping

variable {g g' : Grouping}

/-- The comparisons of the groups so far, with those of the current one. -/
def comparisons (g : Grouping) : List Comparison :=
  g.close.flatMap Predicate.comparisons

theorem comparisons_openGroup (g : Grouping) (field : String) (connector? : Option Connector) :
    (g.openGroup field connector?).comparisons = g.comparisons := by
  simp [comparisons, openGroup, close]

theorem comparisons_push (g : Grouping) (k : Connector) (p : Predicate) :
    (g.push k p).comparisons = g.comparisons ++ p.comparisons := by
  obtain ⟨field, connector?, group?, closed⟩ := g
  cases group? with
  | none => simp [comparisons, push, close]
  | some q => simp [comparisons, push, close, Predicate.comparisons_join]

/-- To make room for a clause changes the field in force and adds nothing. -/
theorem enter_spec (g : Grouping) (c : Clause) : (g.enter c).1.field = c.field?.getD g.field ∧
    (g.enter c).1.comparisons = g.comparisons := by
  obtain ⟨k?, f?, sep, negated, operator, value⟩ := c
  cases f? with
  | none => exact ⟨rfl, rfl⟩
  | some f =>
    simp only [enter, Option.getD_some]
    split
    · exact ⟨rfl, comparisons_openGroup g f k?⟩
    · rename_i hf
      rw [ne_eq, Decidable.not_not] at hf
      subst hf
      cases k? with
      | none => exact ⟨rfl, rfl⟩
      | some k =>
        simp only
        split
        · exact ⟨rfl, rfl⟩
        · exact ⟨rfl, comparisons_openGroup g g.field (some k)⟩

/-- One more clause adds its comparison behind those so far. -/
theorem step_comparisons {c : Clause} (h : step resolve g c = .ok g') :
    g'.field = c.field?.getD g.field ∧
      ∃ d, Clause.Gives resolve (c.field?.getD g.field, c) d ∧
        g'.comparisons = g.comparisons ++ [d] := by
  obtain ⟨hfield, hcomparisons⟩ := enter_spec g c
  rw [step] at h
  generalize g.enter c = entered at hfield hcomparisons h
  obtain ⟨p, hp, h⟩ := bind_eq_ok.1 h
  cases h
  rw [hfield] at hp
  obtain ⟨d, hd, hgives⟩ := Clause.gives_of_predicate hp
  exact ⟨hfield, d, hgives, by rw [comparisons_push, hcomparisons, hd]⟩

/-- A pass adds one comparison for each clause, in order. -/
theorem foldlM_comparisons {cs : List Clause} (h : cs.foldlM (step resolve) g = .ok g') :
    ∃ ds, List.Forall₂ (Clause.Gives resolve) (Clause.inForce g.field cs) ds ∧
      g'.comparisons = g.comparisons ++ ds := by
  induction cs generalizing g with
  | nil =>
    cases h
    exact ⟨[], .nil, (List.append_nil _).symm⟩
  | cons c cs ih =>
    rw [List.foldlM_cons] at h
    obtain ⟨g₁, hstep, h⟩ := bind_eq_ok.1 h
    obtain ⟨hfield, d, hd, hfirst⟩ := step_comparisons hstep
    obtain ⟨ds, hds, hrest⟩ := ih h
    rw [hfield] at hds
    exact ⟨d :: ds, .cons hd hds, by rw [hrest, hfirst, List.append_assoc]; rfl⟩

end Grouping

theorem Predicate.gives_of_ofClauses {cs : List Clause} {p : Predicate}
    (h : ofClauses resolve cs = .ok (some p)) :
    List.Forall₂ (Clause.Gives resolve) (Clause.inForce "" cs) p.comparisons := by
  cases cs with
  | nil => cases h
  | cons c cs =>
    cases hf : c.field? with
    | none =>
      rw [ofClauses, hf] at h
      cases h
    | some f =>
      simp only [ofClauses, hf] at h
      obtain ⟨g, hg, h⟩ := bind_eq_ok.1 h
      -- The pass begins with no comparison, and with the field that the first clause names.
      obtain ⟨ds, hds, hcomparisons⟩ := Grouping.foldlM_comparisons hg
      have hp : p.comparisons = ds :=
        (comparisons_all? (Except.ok.inj h)).trans hcomparisons
      rw [Clause.inForce, hf] at hds ⊢
      exact hp ▸ hds

theorem Predicate.comparisons_of_ofClauses {cs : List Clause} {p : Predicate}
    (h : ofClauses resolve cs = .ok (some p)) :
    List.Forall₂ (Clause.Makes resolve) (Clause.inForce "" cs) p.comparisons :=
  (gives_of_ofClauses h).imp fun _ _ => Clause.Gives.makes

/-! ## What is never reached -/

/-- Neither evaluation nor SQL nor the text of a comparison falls back on what stands there for an
    operand that does not suit. -/
structure Comparison.Covered (d : Comparison) : Prop where
  eval : ∀ fallback like row, d.evalOr fallback like row = d.eval like row
  sql : ∀ fallback, Sql.comparisonOr fallback d = Sql.comparison d
  text : ∀ fallback, d.textOr fallback = d.text

/-- An operand that suits its operator is never passed over. -/
theorem Comparison.covered_of_suits {t : ColumnType} {d : Comparison}
    (h : d.operand.Suits t d.operator) : d.Covered := by
  obtain ⟨column, operator, operand⟩ := d
  cases h with
  | @is v _ => cases v with
    | bool b => cases b <;> exact ⟨fun _ _ _ => rfl, fun _ => rfl, fun _ => rfl⟩
    | _ => exact ⟨fun _ _ _ => rfl, fun _ => rfl, fun _ => rfl⟩
  | @order op v hop _ =>
    simp only [List.mem_cons, List.not_mem_nil, or_false] at hop
    rcases hop with rfl | rfl | rfl | rfl | rfl
    all_goals exact ⟨fun _ _ _ => rfl, fun _ => rfl, fun _ => rfl⟩
  | isNull | like | likeAny | isIn | between =>
    exact ⟨fun _ _ _ => rfl, fun _ => rfl, fun _ => rfl⟩

/-! ## Compiled filters -/

/-- The predicate of a filter is well typed. It compares, clause by clause, the column that answers
    to the field in force with an operand that suits the operator and the type of the column, and
    negates nothing but comparisons whose operator has a negated form. Its columns are those of the
    fields in force, each at its first use. So nothing ever falls back on what stands for an operand
    that does not suit. -/
theorem compile_shape {mode : Mode} {filter : String} {p : Predicate}
    (h : Predicate.compile mode resolve filter = .ok (some p)) :
    ∃ cs, Clause.parse mode filter = .ok cs ∧
      List.Forall₂ (Clause.Makes resolve) (Clause.inForce "" cs) p.comparisons ∧
      p.WellTyped resolve ∧
      (∀ q ∈ p.negated, ∃ c, q = .compare c ∧ c.operator ∈ [.is, .eq, .like, .isIn]) ∧
      p.columns =
        ((Clause.inForce "" cs).filterMap fun x => (resolve x.1).map Column.name).eraseDups ∧
      ∀ d ∈ p.comparisons, d.Covered := by
  have htyped := Predicate.wellTyped_of_compile h
  obtain ⟨cs, hcs, h⟩ := bind_eq_ok.1 h
  have hmakes := Predicate.comparisons_of_ofClauses h
  refine ⟨cs, hcs, hmakes, htyped, htyped.negated, ?_, fun d hd => ?_⟩
  · rw [Predicate.columns_eq, Clause.columns_of_makes hmakes]
  · obtain ⟨t, hsuits⟩ := Clause.suits_of_makes hmakes d hd
    exact Comparison.covered_of_suits hsuits

/-- A list, a negated null, patterns and a range, on two columns of which one is named twice,
    between words that are no clauses: `x a:in:1,2|~is:null :b:like:u%,v% y :a:between:1,5`. -/
theorem compile_shape_two_columns :
    let resolve : Resolver := fun field =>
      if field = "a" then some ⟨"A", .integer⟩ else if field = "b" then some ⟨"b", .text⟩ else none
    ∃ p, Predicate.compile .lenient resolve "x a:in:1,2|~is:null :b:like:u%,v% y :a:between:1,5" =
        .ok (some p) ∧
      p.comparisons.map Comparison.column = ["A", "A", "b", "A"] ∧ p.columns = ["A", "b"] ∧
      p.WellTyped resolve ∧ ∀ d ∈ p.comparisons, d.Covered := by
  intro resolve
  obtain ⟨p, hp⟩ : ∃ p, Predicate.compile .lenient resolve
      "x a:in:1,2|~is:null :b:like:u%,v% y :a:between:1,5" = .ok (some p) := ⟨_, rfl⟩
  obtain ⟨cs, hcs, hmakes, htyped, -, hcolumns, hcovered⟩ := compile_shape hp
  cases hcs
  exact ⟨p, hp, Clause.columns_of_makes hmakes, hcolumns, htyped, hcovered⟩

end RowQuery
