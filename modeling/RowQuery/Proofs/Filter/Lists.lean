import RowQuery.Proofs.Filter.Literals
import RowQuery.Proofs.Filter.Writing

/-!
# Lists and ranges in other words

A list of values without quotes is short for comparisons with one value after the other, and a range
for the comparisons with its two bounds. The list is split only after the scanner has taken it as
one value, and all its items have to be read before anything is compared; the comparisons are
clauses of their own, joined one by one. What they are read as, and the first error, is the same.

* `Operand.read_bare`, `Operand.read_bare_isIn`: what bare operands are read as;
* `Predicate.compile_chain`: what clauses of one operator on one field compile to;
* `ListForm.sameRows`: a list in place of such clauses;
* `compile_lists`: lists of values, lists of patterns and ranges hold on the same rows as the
  clauses they stand for, or fail with the same error.
-/

namespace RowQuery

open Literal (Item unescape)
open Clause (naming goingOn written)

/-- Two filters fail with the same error, or each compiles to a predicate and both predicates accept
    the same rows. -/
inductive SameRows : Except FilterError (Option Predicate) → Except FilterError (Option Predicate) →
    Prop
  | error (e : FilterError) : SameRows (.error e) (.error e)
  | ok {p q : Predicate} :
    (∀ row, (Matcher.ofPredicate p).accepts row = (Matcher.ofPredicate q).accepts row) →
      SameRows (.ok (some p)) (.ok (some q))

/-- A value as it is written without quotes in a list: it is not empty, and its commas are
    escaped. -/
structure Literal.BareItem (s : String) : Prop where
  ne_empty : s ≠ ""
  bareRun : Token.BareRun s.toList
  item : Item s.toList

open Literal (BareItem)

/-! ## Values and lists of values -/

namespace Literal

variable {e : String} {es : List String}

theorem toList_intercalate (es : List String) :
    (",".intercalate es).toList = joinText [','] (es.map String.toList) := by
  induction es with
  | nil => rfl
  | cons e es ih =>
    cases es with
    | nil => simp [joinText]
    | cons e' es =>
      rw [String.intercalate_cons_cons, String.toList_append, String.toList_append, ih,
        List.map_cons, List.map_cons, List.map_cons, joinText_cons_cons]
      rfl

theorem BareItem.isValue (h : BareItem e) : Token.IsValue e.toList :=
  .bare (mt String.toList_eq_nil_iff.1 h.ne_empty) h.bareRun

theorem bareRun_intercalate (hes : ∀ e ∈ es, BareItem e) :
    Token.BareRun (",".intercalate es).toList := by
  rw [toList_intercalate]
  exact bareRun_joinText (List.forall_mem_map.2 fun e he => (hes e he).bareRun)

theorem intercalate_ne_nil (hne : es ≠ []) (hes : ∀ e ∈ es, BareItem e) :
    (",".intercalate es).toList ≠ [] := by
  obtain ⟨e, es, rfl⟩ := List.exists_cons_of_ne_nil hne
  have he : e.toList ≠ [] :=
    mt String.toList_eq_nil_iff.1 (hes e List.mem_cons_self).ne_empty
  cases es with
  | nil => rwa [String.intercalate_singleton]
  | cons e' es =>
    rw [String.intercalate_cons_cons, String.toList_append, String.toList_append]
    simp [he]

theorem isValue_intercalate (hne : es ≠ []) (hes : ∀ e ∈ es, BareItem e) :
    Token.IsValue (",".intercalate es).toList :=
  .bare (intercalate_ne_nil hne hes) (bareRun_intercalate hes)

theorem splitList_intercalate (hne : es ≠ []) (hes : ∀ e ∈ es, BareItem e) :
    splitList (",".intercalate es).toList = es.map fun e => unescape e.toList := by
  obtain ⟨e, es, rfl⟩ := List.exists_cons_of_ne_nil hne
  obtain ⟨he, hes⟩ := List.forall_mem_cons.1 hes
  rw [toList_intercalate, List.map_cons, splitList_joinText he.item, List.map_map, List.map_cons]
  · rfl
  · exact List.forall_mem_map.2 fun t ht => (hes t ht).item

end Literal

namespace Operand

variable {column : Column} {op : Operator} {e : String} {es : List String}

/-- How a bare value is read. -/
def readBare (column : Column) (type : ColumnType) (e : String) : Except FilterError Value :=
  readValue column type (unescape e.toList)

/-- A bare value of a comparison is one of the column's type. -/
theorem read_bare (h : Token.BareRun e.toList) (hop : op ∈ [Operator.eq, .gte, .lte]) :
    read column op e = (readBare column column.type e).map scalar := by
  simp only [List.mem_cons, List.not_mem_nil, or_false] at hop
  rcases hop with rfl | rfl | rfl <;> rw [read, Literal.stripQuotes_bareRun h] <;> rfl

/-- A bare pattern without an open comma is a single one. -/
theorem read_bare_like (h : BareItem e) :
    read column .like e = (readBare column .text e).map scalar := by
  rw [read, Literal.stripQuotes_bareRun h.bareRun]
  simp only [Literal.splitList_item h.item]
  rfl

theorem readList_intercalate (type : ColumnType) (hne : es ≠ []) (hes : ∀ e ∈ es, BareItem e) :
    readList column type (",".intercalate es).toList = es.mapM (readBare column type) := by
  rw [readList, if_neg (Literal.intercalate_ne_nil hne hes),
    Literal.splitList_intercalate hne hes, List.mapM_map]
  rfl

/-- A bare list is read item by item. -/
theorem read_bare_isIn (hne : es ≠ []) (hes : ∀ e ∈ es, BareItem e) :
    read column .isIn (",".intercalate es) =
      (es.mapM (readBare column column.type)).map list := by
  rw [read, Literal.stripQuotes_bareRun (Literal.bareRun_intercalate hes)]
  simp only [readList_intercalate column.type hne hes]

/-- A bare list of patterns is read item by item. -/
theorem read_bare_like_list (hlength : 2 ≤ es.length) (hes : ∀ e ∈ es, BareItem e) :
    read column .like (",".intercalate es) = (es.mapM (readBare column .text)).map list := by
  have hne : es ≠ [] := List.ne_nil_of_length_pos (by omega)
  rw [read, Literal.stripQuotes_bareRun (Literal.bareRun_intercalate hes)]
  simp only [readList_intercalate .text hne hes, Literal.splitList_intercalate hne hes,
    List.length_map, Bool.not_false, Bool.true_and]
  exact if_pos (decide_eq_true hlength)

/-- A bare range is read bound by bound. -/
theorem read_bare_between {e₁ e₂ : String} (h₁ : BareItem e₁) (h₂ : BareItem e₂) :
    read column .between (e₁ ++ "," ++ e₂) = (do
      let low ← readBare column column.type e₁
      let high ← readBare column column.type e₂
      return range low high) := by
  have hes : ∀ e ∈ [e₁, e₂], BareItem e := by simp [h₁, h₂]
  have hjoin : e₁ ++ "," ++ e₂ = ",".intercalate [e₁, e₂] := by
    rw [String.intercalate_cons_cons, String.intercalate_singleton]
  rw [hjoin, read, Literal.stripQuotes_bareRun (Literal.bareRun_intercalate hes)]
  simp only [readList_intercalate column.type (List.cons_ne_nil _ _) hes, List.mapM_cons,
    List.mapM_nil]
  cases readBare column column.type e₁ with
  | error _ => rfl
  | ok low => cases readBare column column.type e₂ <;> rfl

end Operand

/-! ## Clauses on one field, joined one by one -/

/-- What a connector makes of truth values. -/
def Connector.over : Connector → List Bool → Bool
  | .and, bs => bs.all id
  | .or, bs => bs.any id

/-- Predicates joined from left to right. -/
def Predicate.joined? (k : Connector) : List Predicate → Option Predicate
  | [] => none
  | p :: ps => some (ps.foldl k.join p)

theorem Predicate.holds_foldl_join (k : Connector) (p : Predicate) (ps : List Predicate)
    (row : Row) : (ps.foldl k.join p).holds row = k.over ((p :: ps).map (·.holds row)) := by
  induction ps generalizing p with
  | nil => cases k <;> simp [Connector.over]
  | cons q qs ih =>
    rw [List.foldl_cons, ih]
    cases k
    · simp [Connector.over, Connector.holds_join, Connector.apply, Bool.and_assoc]
    · simp [Connector.over, Connector.holds_join, Connector.apply, Bool.or_assoc]

variable {resolve : Resolver} {f w w' : String} {n : Bool} {op op' : Operator} {k : Connector}
  {column : Column} {e : String} {es : List String}

namespace Clause

/-- Clauses of one operator on a field, one for each value. -/
def chain (f : String) (n : Bool) (op : Operator) (k : Connector) : List String → List Clause
  | [] => []
  | e :: es => naming f n op e :: es.map (goingOn k n op)

theorem written_cons (c : Clause) (cs : List Clause) :
    written (c :: cs) = written [c] ++ written cs := by
  simp [written, String.ofList_append]

theorem written_goingOn (hw : k.symbol.toString ++ op.key n ++ ":" = w) (v : String) :
    written [goingOn k n op v] = w ++ v := by
  subst hw
  rw [← String.toList_inj]
  simp [written, goingOn, chars, key]

theorem written_chain (hw : ":" ++ op.key n ++ ":" = w)
    (hw' : k.symbol.toString ++ op.key n ++ ":" = w') (hne : es ≠ []) :
    written (chain f n op k es) = f ++ w ++ w'.intercalate es := by
  obtain ⟨e, es, rfl⟩ := List.exists_cons_of_ne_nil hne
  have hrest : ∀ e, e ++ written (es.map (goingOn k n op)) = w'.intercalate (e :: es) := by
    clear hne
    induction es with
    | nil => exact fun e => by simp [written]
    | cons e' es ih =>
      intro e
      rw [List.map_cons, written_cons, written_goingOn hw', String.append_assoc, ih,
        String.intercalate_cons_cons, String.append_assoc]
  rw [chain, written_cons, written_naming hw, String.append_assoc, hrest]

end Clause

open Clause (chain)

/-- The comparison of a column with one value. -/
def Comparison.leaf (column : Column) (n : Bool) (op : Operator) (v : Value) : Predicate :=
  Comparison.signed n ⟨column.name, op, .scalar v⟩

/-- What a clause with one value compiles to. -/
theorem Clause.predicate_of_scalar {c : Clause} {v : Except FilterError Value}
    (hcolumn : resolve f = some column) (hn : c.negated = true → c.operator.invertible = true)
    (hread : Operand.read column c.operator c.value = v.map .scalar) :
    c.predicate resolve f = v.map (Comparison.leaf column c.negated c.operator) := by
  rw [predicate_of_resolve hcolumn hn, hread]
  cases v <;> rfl

variable {read : String → Except FilterError Value}

theorem ClauseGroup.foldlM_extend_goingOn (hcolumn : resolve f = some column)
    (hn : n = true → op.invertible = true)
    (hread : ∀ e ∈ es, Operand.read column op e = (read e).map .scalar) (p : Predicate) :
    (es.map (goingOn k n op)).foldlM (extend resolve f) p =
      (es.mapM read).map fun vs => (vs.map (Comparison.leaf column n op)).foldl k.join p := by
  induction es generalizing p with
  | nil => rfl
  | cons e es ih =>
    obtain ⟨he, hes⟩ := List.forall_mem_cons.1 hread
    rw [List.map_cons, List.foldlM_cons, extend, Clause.predicate_of_scalar hcolumn hn he,
      List.mapM_cons]
    cases read e with
    | error _ => rfl
    | ok v =>
      refine (ih hes _).trans ?_
      cases es.mapM read <;> rfl

namespace Predicate

theorem goingOn_of_mem (hes : ∀ e ∈ es, Token.IsValue e.toList) :
    ∀ d ∈ es.map (goingOn k n op),
      d.connector? = none ∧ d.field? = none ∧ Token.IsValue d.value.toList :=
  List.forall_mem_map.2 fun e he => ⟨rfl, rfl, hes e he⟩

/-- Clauses of a negated operator do not read on, and before a bar there is nothing to read on
    to. -/
theorem clear_of_goingOn (hk : n = true ∨ k = .or) :
    ∀ c d, [c, d] <:+: es.map (goingOn k n op) → c.ReadsOn → d.separator = .or := by
  intro c d hcd hon
  obtain ⟨e, -, rfl⟩ := List.mem_map.1 (hcd.subset (List.mem_cons_self))
  obtain ⟨e', -, rfl⟩ := List.mem_map.1 (hcd.subset (List.mem_cons_of_mem _ List.mem_cons_self))
  exact hk.resolve_left fun hn => absurd (hn.symm.trans hon.2.1) nofun

/-- What clauses of one operator on one field compile to. -/
theorem compile_chain (hf : IsFieldName f) (hcolumn : resolve f = some column)
    (hn : n = true → op.invertible = true) (hk : n = true ∨ k = .or) (hne : es ≠ [])
    (hes : ∀ e ∈ es, Token.IsValue e.toList)
    (hread : ∀ e ∈ es, Operand.read column op e = (read e).map .scalar) (mode : Mode) :
    compile mode resolve (written (chain f n op k es)) =
      (es.mapM read).map fun vs => joined? k (vs.map (Comparison.leaf column n op)) := by
  obtain ⟨e, es, rfl⟩ := List.exists_cons_of_ne_nil hne
  obtain ⟨he, hes⟩ := List.forall_mem_cons.1 hes
  obtain ⟨hreade, hread⟩ := List.forall_mem_cons.1 hread
  rw [chain, compile_written_field hf he (goingOn_of_mem hes) (clear_of_goingOn hk),
    ClauseGroup.predicate, Clause.predicate_of_scalar hcolumn hn hreade, List.mapM_cons]
  cases read e with
  | error _ => rfl
  | ok v =>
    refine (congrArg (Except.map some)
      (ClauseGroup.foldlM_extend_goingOn hcolumn hn hread _)).trans ?_
    cases es.mapM read <;> rfl

/-- Clauses on a field to which no column answers. -/
theorem compile_chain_unknown (hf : IsFieldName f) (hunknown : resolve f = none)
    (hk : n = true ∨ k = .or) (hne : es ≠ []) (hes : ∀ e ∈ es, Token.IsValue e.toList)
    (mode : Mode) : compile mode resolve (written (chain f n op k es)) =
      .error (.unknownField f) := by
  obtain ⟨e, es, rfl⟩ := List.exists_cons_of_ne_nil hne
  obtain ⟨he, hes⟩ := List.forall_mem_cons.1 hes
  exact compile_written_field_unknown hf he (goingOn_of_mem hes) (clear_of_goingOn hk) mode hunknown

end Predicate

/-! ## Lists in place of clauses -/

/-- On these values an operator on lists means what another operator means of any of them, and it
    reads the list as the other reads the values one by one. -/
structure ListForm (es : List String) (type : Column → ColumnType) (op' op : Operator) : Prop where
  read_list : ∀ column, Operand.read column op' (",".intercalate es) =
    (es.mapM (Operand.readBare column (type column))).map .list
  read_scalar : ∀ column, ∀ e ∈ es, Operand.read column op e =
    (Operand.readBare column (type column) e).map .scalar
  eval : ∀ like c vs row, Comparison.eval like ⟨c, op', .list vs⟩ row =
    vs.any fun v => Comparison.eval like ⟨c, op, .scalar v⟩ row

namespace ListForm

variable {type : Column → ColumnType}

theorem isIn (hne : es ≠ []) (hes : ∀ e ∈ es, Literal.BareItem e) :
    ListForm es Column.type .isIn .eq where
  read_list _ := Operand.read_bare_isIn hne hes
  read_scalar _ e he := Operand.read_bare (hes e he).bareRun (by decide)
  eval _ _ _ _ := rfl

theorem like (hlength : 2 ≤ es.length) (hes : ∀ e ∈ es, Literal.BareItem e) :
    ListForm es (fun _ => .text) .like .like where
  read_list _ := Operand.read_bare_like_list hlength hes
  read_scalar _ e he := Operand.read_bare_like (hes e he)
  eval _ _ _ _ := rfl

/-- A negated list excludes each of its values. -/
theorem holds (h : ListForm es type op' op) (n : Bool) (c : String) (vs : List Value) (row : Row) :
    (Comparison.signed n ⟨c, op', .list vs⟩).holds row =
      (if n then Connector.and else .or).over
        (vs.map fun v => (Comparison.signed n ⟨c, op, .scalar v⟩).holds row) := by
  cases n with
  | false => simp [Comparison.signed, Predicate.holds, Predicate.eval, h.eval, Connector.over,
      List.any_map]
  | true => simp [Comparison.signed, Predicate.holds, Predicate.eval, h.eval, Connector.over,
      List.all_map, List.not_any_eq_all_not]

/-- A list in place of clauses joined by bars, or by colons if they are negated. -/
theorem sameRows {w₁ w₂ : String} (h : ListForm es type op' op) (n : Bool)
    (hw : ":" ++ op'.key n ++ ":" = w) (hw₁ : ":" ++ op.key n ++ ":" = w₁)
    (hw₂ : (if n then Connector.and else .or).symbol.toString ++ op.key n ++ ":" = w₂)
    (hn : n = true → op.invertible = true ∧ op'.invertible = true) (hf : IsFieldName f)
    (hne : es ≠ []) (hes : ∀ e ∈ es, Literal.BareItem e) (mode : Mode) :
    SameRows (Predicate.compile mode resolve (f ++ w ++ ",".intercalate es))
      (Predicate.compile mode resolve (f ++ w₁ ++ w₂.intercalate es)) := by
  have hk : n = true ∨ (if n then Connector.and else .or) = .or := by cases n <;> simp
  have hvalue := Literal.isValue_intercalate hne hes
  have hvalues : ∀ e ∈ es, Token.IsValue e.toList := fun e he => (hes e he).isValue
  rw [← Clause.written_chain hw₁ hw₂ hne]
  cases hcolumn : resolve f with
  | none =>
    rw [Predicate.compile_clause_unknown hw hf hcolumn hvalue,
      Predicate.compile_chain_unknown hf hcolumn hk hne hvalues]
    exact .error _
  | some column =>
    rw [Predicate.compile_clause hw hf hcolumn (fun h => (hn h).2) hvalue, h.read_list,
      Predicate.compile_chain hf hcolumn (fun h => (hn h).1) hk hne hvalues (h.read_scalar column)]
    cases hvs : es.mapM (Operand.readBare column (type column)) with
    | error e => exact .error e
    | ok vs =>
      obtain ⟨e, es, rfl⟩ := List.exists_cons_of_ne_nil hne
      obtain ⟨v, vs, -, -, rfl⟩ := mapM_cons_eq_ok.1 hvs
      refine .ok fun row => ?_
      rw [Matcher.accepts_eq_holds, Matcher.accepts_eq_holds, Predicate.holds_foldl_join, h.holds,
        ← List.map_cons, List.map_map]
      rfl

end ListForm

/-- A range in place of the clauses of its bounds. -/
theorem sameRows_between {e₁ e₂ : String} (hf : IsFieldName f) (h₁ : Literal.BareItem e₁)
    (h₂ : Literal.BareItem e₂) (mode : Mode) :
    SameRows (Predicate.compile mode resolve (f ++ ":between:" ++ (e₁ ++ "," ++ e₂)))
      (Predicate.compile mode resolve (f ++ ":gte:" ++ e₁ ++ ":lte:" ++ e₂)) := by
  have hw : ":" ++ Operator.between.key false ++ ":" = ":between:" := by decide
  have hw₁ : ":" ++ Operator.gte.key false ++ ":" = ":gte:" := by decide
  have hw₂ : Connector.and.symbol.toString ++ Operator.lte.key false ++ ":" = ":lte:" := by decide
  have hvalue : Token.IsValue (e₁ ++ "," ++ e₂).toList := by
    have hjoin : e₁ ++ "," ++ e₂ = ",".intercalate [e₁, e₂] := by
      rw [String.intercalate_cons_cons, String.intercalate_singleton]
    rw [hjoin]
    exact Literal.isValue_intercalate (List.cons_ne_nil _ _) (by simp [h₁, h₂])
  have htext : f ++ ":gte:" ++ e₁ ++ ":lte:" ++ e₂ =
      written [naming f false .gte e₁, goingOn .and false .lte e₂] := by
    rw [Clause.written_cons, Clause.written_naming hw₁, Clause.written_goingOn hw₂]
    simp only [String.append_assoc]
  have hcs : ∀ d ∈ [goingOn .and false .lte e₂],
      d.connector? = none ∧ d.field? = none ∧ Token.IsValue d.value.toList := by
    simp [goingOn, h₂.isValue]
  have hclear : ∀ c d, [c, d] <:+: [goingOn .and false .lte e₂] → c.ReadsOn → d.separator = .or :=
    fun c d h => absurd h.length_le (by simp)
  rw [htext]
  cases hcolumn : resolve f with
  | none =>
    rw [Predicate.compile_clause_unknown hw hf hcolumn hvalue,
      Predicate.compile_written_field_unknown hf h₁.isValue hcs hclear mode hcolumn]
    exact .error _
  | some column =>
    have hplain : ∀ {op : Operator}, false = true → op.invertible = true :=
      fun h => absurd h Bool.false_ne_true
    have hlow : (naming f false .gte e₁).predicate resolve f =
        (Operand.readBare column column.type e₁).map (Comparison.leaf column false .gte) :=
      Clause.predicate_of_scalar (c := naming f false .gte e₁) hcolumn hplain
        (Operand.read_bare h₁.bareRun (by simp [naming]))
    have hhigh : (goingOn .and false .lte e₂).predicate resolve f =
        (Operand.readBare column column.type e₂).map (Comparison.leaf column false .lte) :=
      Clause.predicate_of_scalar (c := goingOn .and false .lte e₂) hcolumn hplain
        (Operand.read_bare h₂.bareRun (by simp [goingOn]))
    rw [Predicate.compile_clause hw hf hcolumn hplain hvalue, Operand.read_bare_between h₁ h₂,
      Predicate.compile_written_field hf h₁.isValue hcs hclear]
    simp only [ClauseGroup.predicate, List.foldlM_cons, List.foldlM_nil, ClauseGroup.extend, hlow,
      hhigh]
    cases Operand.readBare column column.type e₁ with
    | error e => exact .error e
    | ok low =>
      cases Operand.readBare column column.type e₂ with
      | error e => exact .error e
      | ok high =>
        refine .ok fun row => ?_
        rw [Matcher.accepts_eq_holds, Matcher.accepts_eq_holds]
        rfl

/-- Lists and ranges are short for clauses. A list of values is short for their alternatives, and a
    negated one excludes each of them; a list of patterns is short for the alternatives as well, and
    a range for its two bounds. Both filters compile to predicates that accept the same rows, or
    both fail with the same error. -/
theorem compile_lists (hf : IsFieldName f) (mode : Mode) (resolve : Resolver) :
    (∀ es : List String, es ≠ [] → (∀ e ∈ es, Literal.BareItem e) →
      SameRows (Predicate.compile mode resolve (f ++ ":in:" ++ ",".intercalate es))
          (Predicate.compile mode resolve (f ++ ":eq:" ++ "|eq:".intercalate es)) ∧
        SameRows (Predicate.compile mode resolve (f ++ ":~in:" ++ ",".intercalate es))
          (Predicate.compile mode resolve (f ++ ":~eq:" ++ ":~eq:".intercalate es)) ∧
        (2 ≤ es.length →
          SameRows (Predicate.compile mode resolve (f ++ ":like:" ++ ",".intercalate es))
            (Predicate.compile mode resolve (f ++ ":like:" ++ "|like:".intercalate es)))) ∧
    ∀ e₁ e₂ : String, Literal.BareItem e₁ → Literal.BareItem e₂ →
      SameRows (Predicate.compile mode resolve (f ++ ":between:" ++ (e₁ ++ "," ++ e₂)))
        (Predicate.compile mode resolve (f ++ ":gte:" ++ e₁ ++ ":lte:" ++ e₂)) := by
  refine ⟨fun es hne hes => ⟨?_, ?_, fun hlength => ?_⟩, fun e₁ e₂ h₁ h₂ =>
    sameRows_between hf h₁ h₂ mode⟩
  · exact (ListForm.isIn hne hes).sameRows false (by decide) (by decide) (by decide) nofun hf hne
      hes mode
  · exact (ListForm.isIn hne hes).sameRows true (by decide) (by decide) (by decide)
      (fun _ => ⟨rfl, rfl⟩) hf hne hes mode
  · exact (ListForm.like hlength hes).sameRows false (by decide) (by decide) (by decide) nofun hf
      hne hes mode

/-- A list with a value that is a keyword, one with an escaped comma and one with an escaped colon;
    and a range on a column of numbers whose second bound is none. -/
theorem compile_lists_keyword :
    let resolve : Resolver := fun field =>
      if field = "é" then some ⟨"name", .text⟩
      else if field = "n" then some ⟨"number", .integer⟩ else none
    SameRows (Predicate.compile .strict resolve "é:~in:eq,a\\,b,\\:1")
        (Predicate.compile .strict resolve "é:~eq:eq:~eq:a\\,b:~eq:\\:1") ∧
      SameRows (Predicate.compile .strict resolve "é:like:eq,a\\,b,\\:1")
        (Predicate.compile .strict resolve "é:like:eq|like:a\\,b|like:\\:1") ∧
      SameRows (Predicate.compile .strict resolve "n:between:1,eq")
        (Predicate.compile .strict resolve "n:gte:1:lte:eq") ∧
      Predicate.compile .strict resolve "n:gte:1:lte:eq" =
        .error (.unreadable "number" "eq" .integer) := by
  intro resolve
  have heq : Literal.BareItem "eq" := by
    refine ⟨by decide, Token.bareRun_takeBare "eq".toList, ?_⟩
    exact .plain (by decide) (by decide) (.plain (by decide) (by decide) .nil)
  have hcomma : Literal.BareItem "a\\,b" := by
    refine ⟨by decide, Token.bareRun_takeBare "a\\,b".toList, ?_⟩
    exact .plain (by decide) (by decide) (.escape (.plain (by decide) (by decide) .nil))
  have hcolon : Literal.BareItem "\\:1" := by
    refine ⟨by decide, Token.bareRun_takeBare "\\:1".toList, ?_⟩
    exact .escape (.plain (by decide) (by decide) .nil)
  have hone : Literal.BareItem "1" := by
    refine ⟨by decide, Token.bareRun_takeBare "1".toList, ?_⟩
    exact .plain (by decide) (by decide) .nil
  have hlist := (compile_lists (f := "é") (by decide) .strict resolve).1
    ["eq", "a\\,b", "\\:1"] (by decide) (by simp [heq, hcomma, hcolon])
  have hrange := (compile_lists (f := "n") (by decide) .strict resolve).2 "1" "eq" hone
    heq
  exact ⟨hlist.2.1, hlist.2.2 (by decide), hrange, by rfl⟩

end RowQuery
