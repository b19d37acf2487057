import Mathlib.Data.List.Forall2
import RowQuery.Proofs.Filter.Fields

/-!
# Which clause fails

Clauses are compiled in one pass that groups them on the way. Whether the pass fails, and how, has
nothing to do with the groups: it fails as the first clause would that fails by itself, once the
field in force is written into it. So connectors and separators make no difference to what is
reported, and neither do the clauses behind the one that fails.

* `ofClauses_alone`: a clause by itself compiles to its comparison;
* `ofClauses_eq_error_iff_alone`: the first clause that fails by itself;
* `ofClauses_append_of_error`, `ofClauses_of_sameTest`: what makes no difference;
* `fails_as_first_alone`: when clauses fail, how, and whatever stands around.
-/

namespace RowQuery

variable {resolve : Resolver}

namespace Clause

/-- Clauses with the fields in force written in, given the one in force before them. -/
def spelledOut (field : String) (cs : List Clause) : List Clause :=
  (inForce field cs).map fun x => { x.2 with field? := some x.1 }

/-- Clauses that differ in their connectors and separators at most. -/
structure SameTest (c d : Clause) : Prop where
  field? : d.field? = c.field?
  negated : d.negated = c.negated
  operator : d.operator = c.operator
  value : d.value = c.value

theorem SameTest.predicate {c d : Clause} (h : c.SameTest d) (field : String) :
    d.predicate resolve field = c.predicate resolve field := by
  obtain ⟨connector?, field?, separator, negated, operator, value⟩ := d
  obtain ⟨rfl, rfl, rfl, rfl⟩ := h
  rfl

/-- Neither the fields in force nor the comparisons depend on connectors and separators. -/
theorem SameTest.mapM_predicate {cs ds : List Clause} (h : List.Forall₂ SameTest cs ds)
    (field : String) : (inForce field ds).mapM (fun x => x.2.predicate resolve x.1) =
      (inForce field cs).mapM (fun x => x.2.predicate resolve x.1) := by
  induction h generalizing field with
  | nil => rfl
  | cons h _ ih => rw [inForce, inForce, List.mapM_cons, List.mapM_cons, h.field?, h.predicate, ih]

theorem inForce_append (field : String) (cs ds : List Clause) :
    inForce field (cs ++ ds) = inForce field cs ++ inForce (fieldBehind field cs) ds := by
  induction cs generalizing field with
  | nil => rfl
  | cons c cs ih => exact congrArg (_ :: ·) (ih (c.field?.getD field))

theorem spelledOut_append (field : String) (cs ds : List Clause) :
    spelledOut field (cs ++ ds) = spelledOut field cs ++ spelledOut (fieldBehind field cs) ds := by
  rw [spelledOut, inForce_append, List.map_append]
  rfl

end Clause

namespace Predicate

open Clause

variable {c : Clause} {f : String} {cs : List Clause} {e : FilterError}

/-- A clause by itself compiles to its comparison. -/
theorem ofClauses_alone (field : String) (c : Clause) :
    ofClauses resolve [{ c with field? := some field }] = (c.predicate resolve field).map some := by
  rw [ofClauses_cons rfl]
  show ((c.predicate resolve field >>= _) >>= _ : Except FilterError _).map _ = _
  cases c.predicate resolve field <;> rfl

/-- Clauses fail as the first of them that fails by itself. -/
theorem ofClauses_eq_error_iff_alone (hc : c.field? = some f) :
    ofClauses resolve (c :: cs) = .error e ↔
      ∃ d, (spelledOut f (c :: cs)).find? (fun d => !(ofClauses resolve [d]).isOk) = some d ∧
        ofClauses resolve [d] = .error e := by
  have hfails : ∀ x : String × Clause,
      (!(ofClauses resolve [{ x.2 with field? := some x.1 }]).isOk) =
        !(x.2.predicate resolve x.1).isOk := by
    intro x
    rw [ofClauses_alone]
    cases x.2.predicate resolve x.1 <;> rfl
  have herror : ∀ x : String × Clause,
      ofClauses resolve [{ x.2 with field? := some x.1 }] = .error e ↔
        x.2.predicate resolve x.1 = .error e := by
    intro x
    rw [ofClauses_alone]
    cases x.2.predicate resolve x.1 <;> simp [Except.map]
  rw [ofClauses_eq_error_iff hc, mapM_eq_error_iff, spelledOut, List.find?_map]
  simp only [Function.comp_def, hfails, Option.map_eq_some_iff]
  constructor
  · rintro ⟨x, hx, he⟩
    exact ⟨_, ⟨x, hx, rfl⟩, (herror x).2 he⟩
  · rintro ⟨_, ⟨x, hx, rfl⟩, he⟩
    exact ⟨x, hx, (herror x).1 he⟩

/-- Clauses fail if one of them fails by itself. -/
theorem exists_ofClauses_eq_error_iff (hc : c.field? = some f) :
    (∃ e, ofClauses resolve (c :: cs) = .error e) ↔
      ∃ d ∈ spelledOut f (c :: cs), ∃ e, ofClauses resolve [d] = .error e := by
  constructor
  · rintro ⟨e, h⟩
    obtain ⟨d, hd, he⟩ := (ofClauses_eq_error_iff_alone hc).1 h
    exact ⟨d, List.mem_of_find?_eq_some hd, e, he⟩
  · rintro ⟨d, hd, e, he⟩
    have hsome : ((spelledOut f (c :: cs)).find?
        fun d => !(ofClauses resolve [d]).isOk).isSome = true := by
      refine List.find?_isSome.2 ⟨d, hd, ?_⟩
      rw [he]
      rfl
    obtain ⟨d', hd'⟩ := Option.isSome_iff_exists.1 hsome
    have hfails := List.find?_some hd'
    cases he' : ofClauses resolve [d'] with
    | error e' => exact ⟨e', (ofClauses_eq_error_iff_alone hc).2 ⟨d', hd', he'⟩⟩
    | ok p =>
      rw [he'] at hfails
      cases hfails

/-- Clauses that fail do so in the same way with other clauses behind them. -/
theorem ofClauses_append_of_error (hc : c.field? = some f)
    (h : ofClauses resolve (c :: cs) = .error e) (ds : List Clause) :
    ofClauses resolve (c :: cs ++ ds) = .error e := by
  obtain ⟨d, hd, he⟩ := (ofClauses_eq_error_iff_alone hc).1 h
  have hfirst : (spelledOut f (c :: cs ++ ds)).find? (fun d => !(ofClauses resolve [d]).isOk) =
      some d := by
    rw [spelledOut_append, List.find?_append, hd]
    rfl
  exact (ofClauses_eq_error_iff_alone hc).2 ⟨d, hfirst, he⟩

/-- Clauses that fail do so in the same way with other connectors and separators. -/
theorem ofClauses_of_sameTest (hc : c.field? = some f) {ds : List Clause}
    (htests : List.Forall₂ SameTest (c :: cs) ds) (h : ofClauses resolve (c :: cs) = .error e) :
    ∃ d ds', ds = d :: ds' ∧ d.field? = some f ∧ ofClauses resolve ds = .error e := by
  cases htests with
  | cons htest htests =>
    have hd := htest.field?.trans hc
    refine ⟨_, _, rfl, hd, (ofClauses_eq_error_iff hd).2 ?_⟩
    rw [SameTest.mapM_predicate (.cons htest htests)]
    exact (ofClauses_eq_error_iff hc).1 h

/-- Clauses of which the first names a field fail if and only if one of them fails by itself, with
    its field in force written in, and they fail as the first such clause. If it is one of the
    first `n`, then all clauses fail so of which the first `n` differ from these in connectors and
    separators at most, whatever stands behind. -/
theorem fails_as_first_alone (hc : c.field? = some f) :
    ((∃ e, ofClauses resolve (c :: cs) = .error e) ↔
      ∃ d ∈ spelledOut f (c :: cs), ∃ e, ofClauses resolve [d] = .error e) ∧
    (∀ e, ofClauses resolve (c :: cs) = .error e ↔
      ∃ d, (spelledOut f (c :: cs)).find? (fun d => !(ofClauses resolve [d]).isOk) = some d ∧
        ofClauses resolve [d] = .error e) ∧
    ∀ n e ds, ofClauses resolve (c :: cs) = .error e →
      (∃ d ∈ spelledOut f ((c :: cs).take n), ∃ e, ofClauses resolve [d] = .error e) →
      List.Forall₂ SameTest ((c :: cs).take n) (ds.take n) → ofClauses resolve ds = .error e := by
  refine ⟨exists_ofClauses_eq_error_iff hc, fun _ => ofClauses_eq_error_iff_alone hc, ?_⟩
  rintro (_ | n) e ds h ⟨d, hd, hfails⟩ htests
  · exact absurd hd List.not_mem_nil
  rw [List.take_succ_cons] at hd htests
  -- The clauses up to the `n`-th fail already, and so fail as all of them do.
  obtain ⟨e', h'⟩ := (exists_ofClauses_eq_error_iff hc).2 ⟨d, hd, hfails⟩
  have hall := ofClauses_append_of_error hc h' (cs.drop n)
  rw [List.cons_append, List.take_append_drop, h] at hall
  cases hall
  obtain ⟨d', ds', htake, hd', h'⟩ := ofClauses_of_sameTest hc htests h'
  rw [← List.take_append_drop (n + 1) ds]
  rw [htake] at h' ⊢
  exact ofClauses_append_of_error hd' h' _

/-- Three clauses on integer columns, of which the last two fail by themselves: `a:eq:1`, `|eq:x`
    and `|b:~gt:1`. The second is reported, with another separator too and whatever stands
    behind. -/
theorem fails_as_first_alone_second_clause :
    let resolve : Resolver := fun field => some ⟨field, .integer⟩
    let clauses (separator : Connector) : List Clause :=
      [⟨none, some "a", .and, false, .eq, "1"⟩, ⟨none, none, separator, false, .eq, "x"⟩]
    let negated : Clause := ⟨some .or, some "b", .and, true, .gt, "1"⟩
    (∃ e, ofClauses resolve [negated] = .error e) ∧
      ofClauses resolve (clauses .or ++ [negated]) = .error (.unreadable "a" "x" .integer) ∧
      ∀ behind, ofClauses resolve (clauses .and ++ behind) =
        .error (.unreadable "a" "x" .integer) := by
  intro resolve clauses negated
  obtain ⟨-, hfirst, hrest⟩ := @fails_as_first_alone resolve
    ⟨none, some "a", .and, false, .eq, "1"⟩ "a"
    [⟨none, none, .or, false, .eq, "x"⟩, ⟨some .or, some "b", .and, true, .gt, "1"⟩] rfl
  have herror := (hfirst (.unreadable "a" "x" .integer)).2 ⟨_, rfl, rfl⟩
  refine ⟨⟨_, rfl⟩, herror, fun behind => ?_⟩
  refine hrest 2 _ _ herror ⟨⟨none, some "a", .or, false, .eq, "x"⟩, by decide, _, rfl⟩ ?_
  exact .cons ⟨rfl, rfl, rfl, rfl⟩ (.cons ⟨rfl, rfl, rfl, rfl⟩ .nil)

end Predicate

end RowQuery
