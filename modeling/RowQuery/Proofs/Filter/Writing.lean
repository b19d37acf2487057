import RowQuery.Proofs.Filter.Clauses
import RowQuery.Proofs.Filter.Typing

/-!
# Clauses written and read

A clause is written as the token that stands for it, and clauses are written one behind the other.
Read again they are the clauses that were written, whatever the mode, if nothing that is written can
be taken for something else.

* `Clause.ofToken_token`: the token of a clause stands for it;
* `Clause.parse_written`: clauses that are written are read back;
* `Predicate.compile_written_field`, `Predicate.compile_clause`: what a filter on one field compiles
  to.
-/

namespace RowQuery

open Text (isWord)

theorem Connector.read_symbol (k : Connector) : read k.symbol.toString = .ok k := by
  rw [read, Char.toString, String.toList_singleton]
  simp only [ofSymbol?_symbol]

theorem exists_of_infix_map {α β : Type} {f : α → β} {as : List α} {b b' : β}
    (h : [b, b'] <:+: as.map f) : ∃ a a', [a, a'] <:+: as ∧ f a = b ∧ f a' = b' := by
  obtain ⟨before, behind, h⟩ := h
  obtain ⟨us, rest, rfl, hus, -⟩ := List.map_eq_append_iff.1 h.symm
  obtain ⟨vs, ws, rfl, -, hws⟩ := List.map_eq_append_iff.1 hus
  obtain ⟨a, xs, rfl, ha, hxs⟩ := List.map_eq_cons_iff.1 hws
  obtain ⟨a', ys, rfl, ha', hys⟩ := List.map_eq_cons_iff.1 hxs
  obtain rfl := List.map_eq_nil_iff.1 hys
  exact ⟨a, a', ⟨vs, rest, rfl⟩, ha, ha'⟩

/-- A text that can be written as a field: word characters, one at least. -/
def IsFieldName (s : String) : Prop :=
  s ≠ "" ∧ ∀ c ∈ s.toList, isWord c = true

instance (s : String) : Decidable (IsFieldName s) :=
  decidable_of_iff (s ≠ "" ∧ s.toList.all isWord = true) (and_congr_right' List.all_eq_true)

namespace Clause

variable {c : Clause}

/-- The clause as it is written. -/
def chars (c : Clause) : List Char :=
  (c.connector?.map Connector.symbol).toList ++ (c.field?.getD "").toList ++
    c.separator.symbol :: c.key.toList ++ ':' :: c.value.toList

/-- The text of clauses. -/
def written (cs : List Clause) : String :=
  String.ofList (cs.flatMap chars)

/-- The token of a clause. -/
def token (c : Clause) : Token where
  connector := (c.connector?.map fun k => k.symbol.toString).getD ""
  field := c.field?.getD ""
  separator := c.separator.symbol.toString
  tilde := if c.negated then "~" else ""
  operator := c.operator.keyword
  value := c.value
  position := 0

/-- A clause that names its field and nothing in front: `field:operator:value`. -/
def naming (field : String) (negated : Bool) (operator : Operator) (value : String) : Clause :=
  ⟨none, some field, .and, negated, operator, value⟩

/-- A clause that goes on with the field in force: `:operator:value` or `|operator:value`. -/
def goingOn (k : Connector) (negated : Bool) (operator : Operator) (value : String) : Clause :=
  ⟨none, none, k, negated, operator, value⟩

/-- A clause whose parts can be written. -/
structure Writable (c : Clause) : Prop where
  field : ∀ f, c.field? = some f → IsFieldName f
  connector : c.connector?.isSome = true → c.field?.isSome = true
  value : Token.IsValue c.value.toList

theorem chars_token (c : Clause) : c.token.chars = c.chars := by
  obtain ⟨k?, f?, separator, negated, operator, value⟩ := c
  have hconnector : ((k?.map fun k => k.symbol.toString).getD "").toList =
      (k?.map Connector.symbol).toList := by
    cases k? <;> simp
  have hkey : (if negated then "~" else "").toList ++ operator.keyword.toList =
      (operator.key negated).toList := by
    cases negated <;> simp [Operator.key]
  simp only [Token.chars, token, chars, key, hconnector, ← hkey]
  simp

theorem formed_token (h : c.Writable) : c.token.Formed where
  connector := by
    simp only [token]
    rcases c.connector? with _ | (_ | _) <;> decide
  field := by
    simp only [token]
    cases hf : c.field? with
    | none => exact fun _ hx => absurd hx (by simp)
    | some f => exact (h.field f hf).2
  separator := by
    simp only [token]
    cases c.separator <;> decide
  tilde := by
    simp only [token]
    cases c.negated <;> decide
  operator := ⟨c.operator, rfl⟩
  value := h.value

theorem field_token (h : c.Writable) : c.token.field = "" ↔ c.field? = none := by
  cases hf : c.field? with
  | none => simp [token, hf]
  | some f => simp [token, hf, (h.field f hf).1]

theorem connector_token (c : Clause) : c.token.connector = "" ↔ c.connector? = none := by
  simp only [token]
  rcases c.connector? with _ | (_ | _) <;> decide

/-- The token of a clause stands for it. -/
theorem ofToken_token (h : c.Writable) : ofToken c.token = .ok c := by
  have hfield := field_token h
  refine ofToken_eq_ok.2 ⟨?_, ?_, ?_, ?_, ?_, ?_, ?_, rfl⟩
  · have hconnector := connector_token c
    cases hk : c.connector? with
    | none => rw [readConnector, if_pos (hconnector.2 hk)]
    | some k =>
      rw [readConnector, if_neg (mt hconnector.1 (by simp [hk]))]
      simp only [token, hk, Option.map_some, Option.getD_some, Connector.read_symbol]
      rfl
  · exact Connector.read_symbol c.separator
  · rw [token, Operator.read, Operator.ofKeyword?_keyword]
  · exact (formed_token h).tilde
  · intro hk hnone
    have := h.connector hk
    rw [hfield.1 hnone] at this
    cases this
  · cases hf : c.field? with
    | none => rw [if_pos (hfield.2 hf)]
    | some f =>
      rw [if_neg (mt hfield.1 (by simp [hf]))]
      simp [token, hf]
  · simp only [token]
    split
    · rename_i hn
      rw [hn, decide_eq_true rfl]
    · rename_i hn
      rw [Bool.eq_false_iff.2 hn, decide_eq_false (by decide)]

theorem readsOn_of_token (h : c.Writable) (ht : c.token.ReadsOn) : c.ReadsOn :=
  readsOn_of_ofToken (ofToken_token h) ht

/-- Where tokens stand makes no difference to the clauses they stand for. -/
theorem mapM_ofToken_placed {cs : List Clause} (h : ∀ c ∈ cs, c.Writable) (p : Nat) :
    (Token.placed p (cs.map token)).mapM ofToken = .ok cs := by
  induction cs generalizing p with
  | nil => rfl
  | cons c cs ih =>
    obtain ⟨hc, hcs⟩ := List.forall_mem_cons.1 h
    exact mapM_cons_eq_ok.2 ⟨c, cs, ofToken_moveTo (ofToken_token hc) p, ih hcs _, rfl⟩

/-- Clauses that are written are read back, if the first names a field and each of the others begins
    with a mark. No colon may follow a clause that reads on. -/
theorem parse_written {cs : List Clause} (h : ∀ c ∈ cs, c.Writable)
    (hfirst : ∀ c, cs.head? = some c → c.field?.isSome = true)
    (hmarked : ∀ c ∈ cs.tail, c.connector?.isSome = true ∨ c.field? = none)
    (hclear : ∀ c d, [c, d] <:+: cs → c.ReadsOn → d.chars.head? ≠ some ':') (mode : Mode) :
    parse mode (written cs) = .ok cs := by
  have htext : written cs = Token.written (cs.map token) := by
    rw [written, Token.written, List.flatMap_map]
    simp only [chars_token]
  have hlaid : Laid 0 (written cs).toList (Token.placed 0 (cs.map token)) := by
    rw [htext, Token.written, String.toList_ofList]
    refine Token.laid_written (List.forall_mem_map.2 fun c hc => formed_token (h c hc)) ?_ ?_ 0
    · rw [← List.map_tail]
      refine List.forall_mem_map.2 fun c hc => (hmarked c hc).imp (fun hk => ?_) fun hf => ?_
      · rw [ne_eq, connector_token]
        exact Option.isSome_iff_ne_none.1 hk
      · exact (field_token (h c (List.mem_of_mem_tail hc))).2 hf
    · intro t u htu hon
      obtain ⟨c, d, hcd, rfl, rfl⟩ := exists_of_infix_map htu
      obtain ⟨hc, -⟩ : c.Writable ∧ d.Writable :=
        ⟨h c (hcd.subset (by simp)), h d (hcd.subset (by simp))⟩
      rw [chars_token]
      exact hclear c d hcd (readsOn_of_token hc hon)
  rw [parse_of_scan (scan_eq_iff.2 hlaid), ofTokens_eq_ok]
  exact ⟨mapM_ofToken_placed h 0, hfirst⟩

/-! ## Clauses on one field -/

variable {f v : String} {n : Bool} {op : Operator} {cs : List Clause}

theorem head?_chars (hk : c.connector? = none) (hf : c.field? = none) :
    c.chars.head? = some c.separator.symbol := by
  simp [chars, hk, hf]

/-- A clause that names a field and clauses that go on with it are read back. A clause that reads on
    must be followed by a bar. -/
theorem parse_written_field (hf : IsFieldName f) (hv : Token.IsValue v.toList)
    (hcs : ∀ d ∈ cs, d.connector? = none ∧ d.field? = none ∧ Token.IsValue d.value.toList)
    (hclear : ∀ c d, [c, d] <:+: cs → c.ReadsOn → d.separator = .or) (mode : Mode) :
    parse mode (written (naming f n op v :: cs)) = .ok (naming f n op v :: cs) := by
  refine parse_written (List.forall_mem_cons.2 ⟨?_, fun d hd => ?_⟩) ?_ ?_ ?_ mode
  · refine ⟨fun g hg => ?_, nofun, hv⟩
    cases hg
    exact hf
  · obtain ⟨hk, hnone, hvalue⟩ := hcs d hd
    exact ⟨fun g hg => absurd (hnone.symm.trans hg) nofun, fun h => by simp [hk] at h, hvalue⟩
  · rintro c ⟨⟩
    rfl
  · exact fun d hd => .inr (hcs d hd).2.1
  · intro c d hcd hon
    -- The first clause names its field, and so does not read on.
    rcases List.infix_cons_iff.1 hcd with hcd | hcd
    · obtain ⟨rfl, -⟩ := List.cons_prefix_cons.1 hcd
      cases hon.1
    · obtain ⟨hk, hnone, -⟩ := hcs d (hcd.subset (by simp))
      rw [head?_chars hk hnone, hclear c d hcd hon]
      decide

end Clause

namespace Predicate

open Clause (written naming)

variable {resolve : Resolver} {f v : String} {n : Bool} {op : Operator} {c : Clause}
  {cs : List Clause}

/-- Clauses on one field make up one group. -/
theorem ofClauses_field (hc : c.field? = some f) (hcs : ∀ d ∈ cs, d.field? = none) :
    ofClauses resolve (c :: cs) = (ClauseGroup.predicate resolve ⟨f, c, cs⟩).map some := by
  have hcut : Clause.cut f c cs = (cs, []) := by
    induction cs with
    | nil => rfl
    | cons d ds ih =>
      obtain ⟨hd, hds⟩ := List.forall_mem_cons.1 hcs
      have hopens : d.opens? f c = none := by simp [Clause.opens?, hd]
      simp only [Clause.cut, hopens, ih hds]
  simp only [ofClauses_cons hc, Clause.groups, hc, hcut, List.mapM_cons, List.mapM_nil]
  cases ClauseGroup.predicate resolve ⟨f, c, cs⟩ <;> rfl

/-- What a filter on one field compiles to. -/
theorem compile_written_field (hf : IsFieldName f) (hv : Token.IsValue v.toList)
    (hcs : ∀ d ∈ cs, d.connector? = none ∧ d.field? = none ∧ Token.IsValue d.value.toList)
    (hclear : ∀ c d, [c, d] <:+: cs → c.ReadsOn → d.separator = .or) (mode : Mode) :
    compile mode resolve (written (naming f n op v :: cs)) =
      (ClauseGroup.predicate resolve ⟨f, naming f n op v, cs⟩).map some := by
  have hc : (naming f n op v).field? = some f := rfl
  rw [compile, Clause.parse_written_field hf hv hcs hclear]
  exact ofClauses_field hc fun d hd => (hcs d hd).2.1

/-- A filter on a field to which no column answers. -/
theorem compile_written_field_unknown (hf : IsFieldName f) (hv : Token.IsValue v.toList)
    (hcs : ∀ d ∈ cs, d.connector? = none ∧ d.field? = none ∧ Token.IsValue d.value.toList)
    (hclear : ∀ c d, [c, d] <:+: cs → c.ReadsOn → d.separator = .or) (mode : Mode)
    (hunknown : resolve f = none) :
    compile mode resolve (written (naming f n op v :: cs)) = .error (.unknownField f) := by
  rw [compile_written_field hf hv hcs hclear, ClauseGroup.predicate, Clause.predicate, hunknown]
  rfl

/-- What a filter of one clause compiles to. -/
theorem compile_naming (hf : IsFieldName f) (hv : Token.IsValue v.toList) (mode : Mode) :
    compile mode resolve (written [naming f n op v]) =
      ((naming f n op v).predicate resolve f).map some := by
  rw [compile_written_field hf hv (fun _ h => absurd h List.not_mem_nil)
    (fun c d h => absurd (h.subset List.mem_cons_self) List.not_mem_nil), ClauseGroup.predicate]
  cases (naming f n op v).predicate resolve f <;> rfl

end Predicate

/-- A comparison as a condition, negated or not. -/
def Comparison.signed (negated : Bool) (c : Comparison) : Predicate :=
  if negated then .not (.compare c) else .compare c

variable {resolve : Resolver} {f v : String} {n : Bool} {op : Operator} {column : Column}

/-- What a clause compiles to, if its operator can be negated as it is. -/
theorem Clause.predicate_of_resolve {c : Clause} (hcolumn : resolve f = some column)
    (hn : c.negated = true → c.operator.invertible = true) :
    c.predicate resolve f = (Operand.read column c.operator c.value).map fun operand =>
      Comparison.signed c.negated ⟨column.name, c.operator, operand⟩ := by
  have hinvertible : (c.negated && !c.operator.invertible) = false := by
    cases hc : c.negated with
    | false => rfl
    | true => simp [hn hc]
  rw [Clause.predicate, hcolumn]
  simp only [hinvertible, Bool.false_eq_true, if_false]
  cases Operand.read column c.operator c.value <;> rfl

/-- The text of a single clause. -/
theorem Clause.written_naming {w : String} (hw : ":" ++ op.key n ++ ":" = w) (f v : String) :
    written [naming f n op v] = f ++ w ++ v := by
  subst hw
  rw [← String.toList_inj]
  simp [written, naming, chars, key, Connector.symbol]

/-- What a filter of one clause compiles to, by its text. -/
theorem Predicate.compile_clause {w : String} (hw : ":" ++ op.key n ++ ":" = w)
    (hf : IsFieldName f) (hcolumn : resolve f = some column)
    (hn : n = true → op.invertible = true) (hv : Token.IsValue v.toList) (mode : Mode) :
    compile mode resolve (f ++ w ++ v) =
      (Operand.read column op v).map fun operand =>
        some (Comparison.signed n ⟨column.name, op, operand⟩) := by
  have hpredicate : (Clause.naming f n op v).predicate resolve f =
      (Operand.read column op v).map fun operand =>
        Comparison.signed n ⟨column.name, op, operand⟩ :=
    Clause.predicate_of_resolve (c := Clause.naming f n op v) hcolumn hn
  rw [← Clause.written_naming hw, compile_naming hf hv, hpredicate]
  cases Operand.read column op v <;> rfl

/-- A filter of one clause on a field to which no column answers. -/
theorem Predicate.compile_clause_unknown {w : String} (hw : ":" ++ op.key n ++ ":" = w)
    (hf : IsFieldName f) (hunknown : resolve f = none) (hv : Token.IsValue v.toList)
    (mode : Mode) : compile mode resolve (f ++ w ++ v) = .error (.unknownField f) := by
  rw [← Clause.written_naming hw, compile_naming hf hv, Clause.predicate, hunknown]
  rfl

end RowQuery
