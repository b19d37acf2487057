import RowQuery.Proofs.Sql.Rendering

/-!
# Values stay out of the text

What is rendered for a predicate tells its shape and its columns, and nothing about the values that
it compares with, apart from the null and the truth values behind `is`, which are words of the
language. So two predicates that are *alike*, that is differ in no more than such values, are
rendered as one and the same text. A column is the only thing in the text that comes from outside;
its name is read back from its quotes, and whatever it holds, the quotes end where they should.

* `render_congr`: the text of pieces does not depend on their values;
* `outline_comparisonPieces`: comparisons that are alike are rendered alike;
* `text_hides_values`: the text of a predicate, and the names in it.
-/

namespace RowQuery

/-! ## Predicates that are alike -/

/-- Operands of one kind with as many values. -/
inductive Operand.Alike : Operand → Operand → Prop
  | scalar (v w : Value) : Alike (.scalar v) (.scalar w)
  | list {vs ws : List Value} (h : vs.length = ws.length) : Alike (.list vs) (.list ws)
  | range (low high low' high' : Value) : Alike (.range low high) (.range low' high')

/-- Comparisons that differ in their values at most. What is a word behind `is` is the same in
    both. -/
structure Comparison.Alike (c d : Comparison) : Prop where
  column : c.column = d.column
  operator : c.operator = d.operator
  operand : c.operand.Alike d.operand
  word : c.operator = .is → ∀ v : Value, v.isWord = true →
    (c.operand = .scalar v ↔ d.operand = .scalar v)

/-- Predicates of one shape whose comparisons are alike. -/
inductive Predicate.Alike : Predicate → Predicate → Prop
  | compare {c d : Comparison} (h : c.Alike d) : Alike (.compare c) (.compare d)
  | and {l r l' r' : Predicate} (hl : Alike l l') (hr : Alike r r') : Alike (.and l r) (.and l' r')
  | or {l r l' r' : Predicate} (hl : Alike l l') (hr : Alike r r') : Alike (.or l r) (.or l' r')
  | not {p p' : Predicate} (h : Alike p p') : Alike (.not p) (.not p')

namespace Sql

/-! ## Outlines -/

/-- The text of a piece, if it is text. -/
def Piece.text? : Piece → Option (List Char)
  | .raw s => some s
  | .bind _ => none

/-- Pieces without their values. -/
def outline (ps : List Piece) : List (Option (List Char)) :=
  ps.map Piece.text?

@[simp] theorem outline_append (ps qs : List Piece) :
    outline (ps ++ qs) = outline ps ++ outline qs :=
  List.map_append

@[simp] theorem outline_cons (p : Piece) (ps : List Piece) :
    outline (p :: ps) = p.text? :: outline ps :=
  rfl

/-- The text of pieces does not depend on their values. -/
theorem render_congr (marks : Nat → List Char) {ps qs : List Piece} (h : outline ps = outline qs)
    (n : Nat) : render marks n ps = render marks n qs := by
  induction ps generalizing qs n with
  | nil =>
    rw [List.map_eq_nil_iff.1 h.symm]
  | cons p ps ih =>
    obtain ⟨q, qs, rfl, hq, hqs⟩ := List.map_eq_cons_iff.1 h.symm
    cases p with
    | raw s =>
      cases q with
      | raw t =>
        obtain rfl : t = s := Option.some.inj hq
        rw [render, render, ih hqs.symm]
      | bind w => cases hq
    | bind v =>
      cases q with
      | raw t => cases hq
      | bind w => rw [render, render, ih hqs.symm]

theorem outline_joinPieces (separator : String) {pss qss : List (List Piece)}
    (h : pss.map outline = qss.map outline) :
    outline (joinPieces separator pss) = outline (joinPieces separator qss) := by
  induction pss generalizing qss with
  | nil => rw [List.map_eq_nil_iff.1 h.symm]
  | cons ps pss ih =>
    obtain ⟨qs, qss, rfl, hqs, hqss⟩ := List.map_eq_cons_iff.1 h.symm
    have ih := ih hqss.symm
    -- A separator stands behind every piece list but the last.
    cases pss with
    | nil =>
      rw [List.map_eq_nil_iff.1 hqss]
      exact hqs.symm
    | cons ps' pss =>
      obtain ⟨qs', qss, rfl, -, -⟩ := List.map_eq_cons_iff.1 hqss
      simp only [joinPieces, outline_append, outline_cons, hqs, ih]

/-- Pieces that are made for each of several values tell how many values there are. -/
theorem map_outline_of_length {pieces : Value → List Piece}
    (hpieces : ∀ v w, outline (pieces v) = outline (pieces w)) {vs ws : List Value}
    (h : vs.length = ws.length) :
    (vs.map pieces).map outline = (ws.map pieces).map outline := by
  induction vs generalizing ws with
  | nil => rw [List.eq_nil_of_length_eq_zero h.symm]
  | cons v vs ih =>
    obtain ⟨w, ws, rfl⟩ := List.exists_cons_of_length_eq_add_one h.symm
    simp only [List.map_cons, hpieces v w, ih (Nat.succ.inj h)]

/-- A value behind `is` that is no word is bound. -/
theorem comparisonPieces_is_of_not_isWord (column : String) {v : Value} (h : v.isWord = false) :
    comparisonPieces ⟨column, .is, .scalar v⟩ =
      [.raw (identifier column ++ ' ' :: (sign .is).toList ++ [' ']), .bind v] := by
  cases v with
  | null | bool b => cases h
  | int | float | text | date | dateTime => rfl

/-- Comparisons that are alike are rendered alike. -/
theorem outline_comparisonPieces {c d : Comparison} (h : c.Alike d) :
    outline (comparisonPieces c) = outline (comparisonPieces d) := by
  obtain ⟨column, op, operand⟩ := c
  obtain ⟨column', op', operand'⟩ := d
  obtain ⟨rfl, rfl, hoperand, hword⟩ := h
  cases hoperand with
  | scalar v w =>
    by_cases hop : op = .is
    · subst hop
      have hword := hword rfl
      by_cases hv : v.isWord = true
      · obtain rfl : w = v := Operand.scalar.inj ((hword v hv).1 rfl)
        rfl
      · have hw : ¬w.isWord = true := fun hw =>
          hv (Operand.scalar.inj ((hword w hw).2 rfl) ▸ hw)
        rw [comparisonPieces_is_of_not_isWord _ (Bool.eq_false_iff.2 hv),
          comparisonPieces_is_of_not_isWord _ (Bool.eq_false_iff.2 hw)]
        rfl
    · cases op with
      | is => exact absurd rfl hop
      | _ => rfl
  | @list vs ws hlength =>
    cases op with
    | like =>
      simp only [comparisonPieces, outline_append, outline_cons]
      rw [outline_joinPieces _ (map_outline_of_length (fun _ _ => rfl) hlength)]
    | isIn =>
      simp only [comparisonPieces, outline_append, outline_cons]
      rw [outline_joinPieces _ (map_outline_of_length (fun _ _ => rfl) hlength)]
    | _ => rfl
  | range => cases op <;> rfl

theorem outline_pieces {p q : Predicate} (h : p.Alike q) :
    outline (pieces p) = outline (pieces q) := by
  induction h with
  | compare h => exact outline_comparisonPieces h
  | and _ _ ihl ihr | or _ _ ihl ihr => simp only [pieces, outline_append, outline_cons, ihl, ihr]
  | not _ ih => simp only [pieces, outline_append, outline_cons, ih]

/-- The text of a predicate does not depend on the values it compares with. A column stands in it as
    a quoted name, which ends at its closing quote and is read as the column. -/
theorem text_hides_values :
    (∀ p q : Predicate, p.Alike q → ∀ (style : Style) (start : UInt64),
      (SqlFragment.ofPredicate style start p).text =
        (SqlFragment.ofPredicate style start q).text) ∧
    ∀ (column : String) (rest : List Char), rest.head? ≠ some '"' →
      ∃ quoted, identifier column = '"' :: quoted ∧
        takeName (quoted ++ rest) = some (column.toList, rest) := by
  constructor
  · intro p q h style start
    rw [SqlFragment.text_ofPredicate, SqlFragment.text_ofPredicate,
      render_congr _ (outline_pieces h)]
  · intro column rest hrest
    refine ⟨column.toList.flatMap (fun c => if c = '"' then ['"', '"'] else [c]) ++ ['"'], rfl, ?_⟩
    rw [List.append_assoc]
    exact takeName_identifier column.toList hrest

/-- A list that looks like the text around it, one of other kinds of values in its place, and a
    column with a quote in its name. -/
theorem text_hides_values_two_lists :
    let query (vs : List Value) (v : Value) : Predicate :=
      .or (.not (.compare ⟨"a\"b", .isIn, .list vs⟩))
        (.and (.compare ⟨"n", .is, .scalar .null⟩) (.compare ⟨"n", .is, .scalar v⟩))
    let p := query [.text "$9) OR (TRUE", .int 1] (.int 5)
    let q := query [.null, .bool true] (.text "NULL")
    p.Alike q ∧
      (SqlFragment.ofPredicate .numbered 2 p).text =
        "(NOT (\"a\"\"b\" IN ($3, $4)) OR (\"n\" IS NULL AND \"n\" = $5))" ∧
      (SqlFragment.ofPredicate .numbered 2 p).text =
        (SqlFragment.ofPredicate .numbered 2 q).text ∧
      ∃ quoted, identifier "a\"b" = '"' :: quoted ∧
        takeName (quoted ++ " IN ($3, $4)".toList) =
          some ("a\"b".toList, " IN ($3, $4)".toList) := by
  intro query p q
  have hword : ∀ v : Value, v.isWord = true →
      (Operand.scalar (.int 5) = .scalar v ↔ Operand.scalar (.text "NULL") = .scalar v) := by
    intro v hv
    cases v with
    | null | bool => simp
    | _ => cases hv
  have hlike : p.Alike q :=
    .or (.not (.compare ⟨rfl, rfl, .list rfl, nofun⟩))
      (.and (.compare ⟨rfl, rfl, .scalar _ _, fun _ _ _ => Iff.rfl⟩)
        (.compare ⟨rfl, rfl, .scalar _ _, fun _ => hword⟩))
  exact ⟨hlike, rfl, text_hides_values.1 p q hlike .numbered 2,
    text_hides_values.2 "a\"b" " IN ($3, $4)".toList (by decide)⟩

end Sql

end RowQuery
