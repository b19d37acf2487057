import Mathlib.Algebra.GroupWithZero.Nat
import RowQuery.Proofs.Filter.Clauses
import RowQuery.Proofs.Filter.Scanning
import RowQuery.Proofs.Filter.Shape
import RowQuery.Proofs.Filter.Splitting
import RowQuery.Proofs.Sql.Pieces

/-!
# The values of a condition

The values of a written condition are those that its comparisons bind, from left to right. If the
condition is that of a compiled predicate, each comparison stems from a clause of the filter, and
the value of the clause has a comma between any two of its items. So there are never more values to
bind than the filter has characters, and places for all of them can be counted in a machine word as
long as that holds for the characters.

* `Sql.values_pieces`: the values of a predicate's pieces;
* `Clause.sum_length_bound_le`: the values that clauses bind;
* `Scanned.sum_length_value_le`: the characters that values take up in a text;
* `Sql.length_values_le`: the number of values that a filter binds.
-/

namespace RowQuery

/-! ## The values of comparisons -/

/-- Whether a value is a word of the language behind `is`. -/
def Value.isWord : Value → Bool
  | .null | .bool _ => true
  | _ => false

/-- The values that a comparison binds. Null and the truth values behind `is` are words of the
    language, and an operand that does not suit its operator is left out. -/
def Comparison.bound (c : Comparison) : List Value :=
  match c.operand with
  | .scalar v => if c.operator = .is ∧ v.isWord = true then [] else [v]
  | .list vs => if c.operator = .like ∨ c.operator = .isIn then vs else []
  | .range low high => if c.operator = .between then [low, high] else []

namespace Sql

theorem values_comparisonPieces (c : Comparison) : values (comparisonPieces c) = c.bound := by
  obtain ⟨column, op, operand⟩ := c
  cases operand with
  | scalar v =>
    cases op with
    | is =>
      cases v with
      | bool b => cases b <;> rfl
      | _ => rfl
    | _ => rfl
  | list vs =>
    cases op with
    | like =>
      simp only [comparisonPieces, List.cons_append, values_raw, values_append, values_nil,
        List.append_nil]
      exact values_join (fun _ => rfl) vs
    | isIn =>
      simp only [comparisonPieces, List.cons_append, values_raw, values_append, values_nil,
        List.append_nil]
      exact values_join (fun _ => rfl) vs
    | _ => rfl
  | range low high => cases op <;> rfl

/-- The values of a predicate are those that its comparisons bind, from left to right. -/
theorem values_pieces (p : Predicate) :
    values (pieces p) = p.comparisons.flatMap Comparison.bound := by
  induction p with
  | compare c =>
    rw [pieces, values_comparisonPieces, Predicate.comparisons, List.flatMap_singleton]
  | and l r ihl ihr | or l r ihl ihr =>
    simp only [pieces, List.cons_append, values_raw, values_append, values_nil, List.append_nil,
      ihl, ihr, Predicate.comparisons, List.flatMap_append]
  | not p ih =>
    simp only [pieces, List.cons_append, values_raw, values_append, values_nil, List.append_nil,
      ih, Predicate.comparisons]

end Sql

/-! ## The values that a clause writes -/

namespace Literal

/-- A text has no more open commas than characters. -/
theorem length_splitList_le (s : List Char) : (splitList s).length ≤ s.length + 1 := by
  rw [length_splitList, openCommas]
  have hcount := List.countP_le_length (p := isOpenComma s) (l := List.range s.length)
  rw [List.length_range] at hcount
  exact Nat.succ_le_succ hcount

theorem length_stripQuotes_le (s : List Char) : (stripQuotes s).1.length ≤ s.length := by
  cases s with
  | nil => exact Nat.le_refl 0
  | cons q r =>
    rw [stripQuotes]
    split
    · rw [List.length_dropLast, List.length_cons]
      omega
    · exact Nat.le_refl _

end Literal

/-- A comparison binds values of its operand only. -/
theorem Comparison.length_bound_le (c : Comparison) :
    c.bound.length ≤ c.operand.values.length := by
  obtain ⟨column, op, operand⟩ := c
  cases operand <;> simp only [bound, Operand.values] <;> split <;> simp

/-- Between any two values of an operand there is a comma in its text. -/
theorem Operand.length_values_le {column : Column} {op : Operator} {value : String}
    {operand : Operand} (h : read column op value = .ok operand) :
    operand.values.length ≤ value.toList.length + 1 := by
  have hinner := Literal.length_stripQuotes_le value.toList
  rw [read] at h
  generalize Literal.stripQuotes value.toList = stripped at h hinner
  obtain ⟨inner, quoted⟩ := stripped
  have hlist {t : ColumnType} {vs : List Value} (hvs : readList column t inner = .ok vs) :
      vs.length ≤ value.toList.length + 1 := by
    rw [(readList_spec hvs).1]
    exact Nat.le_trans (Literal.length_splitList_le inner) (Nat.succ_le_succ hinner)
  have hscalar (v : Value) : (scalar v).values.length ≤ value.toList.length + 1 :=
    Nat.le_add_left _ _
  cases op with
  | isIn =>
    obtain ⟨vs, hvs, rfl⟩ := map_eq_ok.1 h
    exact hlist hvs
  | between =>
    obtain ⟨vs, hvs, h⟩ := bind_eq_ok.1 h
    split at h
    · cases h
      exact hlist hvs
    · cases h
  | like =>
    simp only at h
    split at h
    · obtain ⟨vs, hvs, rfl⟩ := map_eq_ok.1 h
      exact hlist hvs
    · cases h
      exact hscalar _
  | is =>
    simp only at h
    split at h
    · cases h
      exact hscalar _
    · obtain ⟨v, -, rfl⟩ := map_eq_ok.1 h
      exact hscalar v
  | _ =>
    obtain ⟨v, -, rfl⟩ := map_eq_ok.1 h
    exact hscalar v

namespace Clause

theorem map_snd_inForce (field : String) (cs : List Clause) :
    (inForce field cs).map (·.2) = cs := by
  induction cs generalizing field with
  | nil => rfl
  | cons c cs ih => rw [inForce, List.map_cons, ih]

/-- Clauses bind at most one value more each than their values have characters. -/
theorem sum_length_bound_le {resolve : Resolver} {xs : List (String × Clause)}
    {ds : List Comparison} (h : List.Forall₂ (Gives resolve) xs ds) :
    (ds.flatMap Comparison.bound).length ≤
      (xs.map fun x => x.2.value.toList.length + 1).sum := by
  induction h with
  | nil => exact Nat.le_refl 0
  | @cons x d xs ds hx _ ih =>
    obtain ⟨column, -, -, -, hread⟩ := hx
    rw [List.flatMap_cons, List.length_append, List.map_cons, List.sum_cons]
    exact Nat.add_le_add (Nat.le_trans d.length_bound_le (Operand.length_values_le hread)) ih

end Clause

/-! ## The values that a filter binds -/

/-- A token has a colon in front of its value. -/
theorem Token.length_value_lt (t : Token) : t.value.toList.length + 1 ≤ t.chars.length := by
  simp only [chars, List.length_append, List.length_cons]
  omega

/-- Tokens stand in the text one behind the other, and so do their values. -/
theorem Scanned.sum_length_value_le {p : Nat} {s : List Char} {ps : List Piece}
    (h : Scanned p s ps) :
    ((ps.filterMap Piece.token?).map fun t => t.value.toList.length + 1).sum ≤ s.length := by
  induction h with
  | done => exact Nat.le_refl 0
  | @token _ t _ _ _ _ ih =>
    rw [List.filterMap_cons, Piece.token?, List.map_cons, List.sum_cons, List.length_append]
    exact Nat.add_le_add t.length_value_lt ih
  | stray _ _ ih =>
    rw [filterMap_consStray, List.length_cons]
    exact Nat.le_succ_of_le ih

/-- A filter binds no more values than it has characters. -/
theorem Sql.length_values_le {mode : Mode} {resolve : Resolver} {filter : String} {p : Predicate}
    (h : Predicate.compile mode resolve filter = .ok (some p)) :
    (values (pieces p)).length ≤ filter.length := by
  obtain ⟨cs, hcs, h⟩ := bind_eq_ok.1 h
  have htokens : (scan filter).tokens.mapM Clause.ofToken = .ok cs :=
    (Clause.ofTokens_eq_ok.1 (Clause.ofTokens_of_parse hcs)).1
  have hvalues : cs.map (fun c => c.value.toList.length + 1) =
      (scan filter).tokens.map fun t => t.value.toList.length + 1 :=
    map_eq_of_mapM (fun t c hc => by rw [(Clause.ofToken_eq_ok.1 hc).2.2.2.2.2.2.2]) htokens
  -- The fields that clauses take over add nothing to their values.
  have hinForce : (Clause.inForce "" cs).map (fun x => x.2.value.toList.length + 1) =
      cs.map fun c => c.value.toList.length + 1 := by
    conv_rhs => rw [← Clause.map_snd_inForce "" cs, List.map_map]
    rfl
  calc (values (pieces p)).length
      = (p.comparisons.flatMap Comparison.bound).length := by rw [values_pieces]
    _ ≤ ((Clause.inForce "" cs).map fun x => x.2.value.toList.length + 1).sum :=
        Clause.sum_length_bound_le (Predicate.gives_of_ofClauses h)
    _ = ((scan filter).tokens.map fun t => t.value.toList.length + 1).sum := by
        rw [hinForce, hvalues]
    _ ≤ filter.length := (scanFrom_scanned 0 filter.toList).sum_length_value_le

end RowQuery
