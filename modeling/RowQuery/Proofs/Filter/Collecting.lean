import RowQuery.Proofs.Filter.Matching

/-!
# Patterns that are asked for

Evaluation without a table reads a pattern where it meets one. It goes from left to right and no
further than it has to, so which patterns it reads depends on the row. Here it is written down on
its own, with a record of the texts it has read as patterns: the table of a `Matcher` is filled
beforehand and without any row, and still every text of the record is in it that is a pattern.

* `Verdict`: a truth value, and the texts that were asked for;
* `Predicate.judge`: evaluation that reads patterns where it meets them;
* `Predicate.settles_judge`: evaluation depends on how texts are matched only through the texts
  that are asked for;
* `Predicate.asked_judge_subset`: only patterns of the predicate are asked for;
* `Matcher.accepts_eq_judge`: a matcher accepts the rows on which its predicate is judged to hold.
-/

namespace RowQuery

open Like (Pattern)

/-- Whether a text is a pattern that matches another text. -/
def matchesText (pattern : String) (s : List Char) : Bool :=
  match Pattern.read? pattern.toList with
  | some p => p.accepts s
  | none => false

/-- What an evaluation has come to. -/
structure Verdict where
  holds : Bool
  /-- The texts that were read as patterns on the way, in order. -/
  asked : List String

namespace Verdict

/-- What needs no pattern. -/
def plain (b : Bool) : Verdict :=
  ⟨b, []⟩

/-- Both of two verdicts. The second is left out if the first decides. -/
def and (x y : Verdict) : Verdict :=
  if x.holds then ⟨y.holds, x.asked ++ y.asked⟩ else x

/-- One of two verdicts. The second is left out if the first decides. -/
def or (x y : Verdict) : Verdict :=
  if x.holds then x else ⟨y.holds, x.asked ++ y.asked⟩

/-- The opposite of a verdict. -/
def not (x : Verdict) : Verdict :=
  ⟨!x.holds, x.asked⟩

/-- One of several verdicts. Those behind the first that decides are left out. -/
def any (xs : List Verdict) : Verdict :=
  xs.foldr or (plain false)

end Verdict

/-- Whether a value has one of some orders to another. -/
def Value.ordered (v : Value) (orders : List Ordering) (w : Value) : Bool :=
  (v.compare? w).any (· ∈ orders)

/-- Whether a value matches a pattern, which is read on the spot. -/
def Value.judgeLike (v pattern : Value) : Verdict :=
  match v.bare?, pattern with
  | some s, .text p => ⟨matchesText p s, [p]⟩
  | _, _ => .plain false

/-- The orders of a cell to the operand that an operator admits. -/
def Operator.orders : Operator → List Ordering
  | is | eq => [.eq]
  | gt => [.gt]
  | gte => [.gt, .eq]
  | lt => [.lt]
  | lte => [.lt, .eq]
  | like | isIn | between => []

/-- Whether a comparison holds on a row. -/
def Comparison.judge (c : Comparison) (row : Row) : Verdict :=
  let v := row.value c.column
  match c.operand, c.operator with
  | .scalar w, .like => v.judgeLike w
  | .scalar .null, .is => .plain v.isNull
  | .scalar w, op => .plain (v.ordered op.orders w)
  | .list ws, .like => .any (ws.map v.judgeLike)
  | .list ws, .isIn => .plain (ws.any (v.ordered Operator.eq.orders))
  | .range low high, .between =>
    .plain (v.ordered Operator.gte.orders low && v.ordered Operator.lte.orders high)
  | _, _ => .plain false

/-- Whether a predicate holds on a row. -/
def Predicate.judge (row : Row) : Predicate → Verdict
  | compare c => c.judge row
  | and l r => (l.judge row).and (r.judge row)
  | or l r => (l.judge row).or (r.judge row)
  | not p => (p.judge row).not

variable {like : String → List Char → Bool} {a b : Bool} {x y : Verdict}

/-! ## What an evaluation depends on -/

namespace Verdict

/-- A verdict settles what an evaluation comes to under a way of matching texts: that this way is
    right about the texts asked for is enough for the two to agree. -/
def Settles (x : Verdict) (like : String → List Char → Bool) (b : Bool) : Prop :=
  (∀ s ∈ x.asked, like s = matchesText s) → b = x.holds

theorem settles_plain (b : Bool) : (plain b).Settles like b :=
  fun _ => rfl

theorem Settles.and (hx : x.Settles like a) (hy : y.Settles like b) :
    (x.and y).Settles like (a && b) := by
  intro h
  rw [Verdict.and] at h ⊢
  cases hholds : x.holds with
  | true =>
    simp only [hholds, if_true, List.mem_append] at h ⊢
    rw [hx fun s hs => h s (.inl hs), hy fun s hs => h s (.inr hs), hholds, Bool.true_and]
  | false =>
    simp only [hholds, Bool.false_eq_true, if_false] at h ⊢
    rw [hx h, hholds, Bool.false_and]

theorem Settles.or (hx : x.Settles like a) (hy : y.Settles like b) :
    (x.or y).Settles like (a || b) := by
  intro h
  rw [Verdict.or] at h ⊢
  cases hholds : x.holds with
  | true =>
    simp only [hholds, if_true] at h ⊢
    rw [hx h, hholds, Bool.true_or]
  | false =>
    simp only [hholds, Bool.false_eq_true, if_false, List.mem_append] at h ⊢
    rw [hx fun s hs => h s (.inl hs), hy fun s hs => h s (.inr hs), hholds, Bool.false_or]

theorem Settles.not (hx : x.Settles like a) : x.not.Settles like (!a) :=
  fun h => congrArg (!·) (hx h)

theorem settles_any {α : Type} {f : α → Bool} {g : α → Verdict}
    (h : ∀ u, (g u).Settles like (f u)) (us : List α) :
    (any (us.map g)).Settles like (us.any f) := by
  induction us with
  | nil => exact settles_plain false
  | cons u us ih => exact (h u).or ih

end Verdict

theorem Value.settles_judgeLike (v w : Value) :
    (v.judgeLike w).Settles like (matchValue like v w) := by
  unfold judgeLike matchValue
  cases v.bare? with
  | none => exact Verdict.settles_plain false
  | some t =>
    cases w with
    | text s => exact fun h => congrFun (h s (List.mem_singleton_self s)) t
    | _ => exact Verdict.settles_plain false

/-- What evaluation asks of the order of two values. -/
theorem Value.ordered_orders (v w : Value) :
    v.ordered Operator.eq.orders w = (v.compare? w == some .eq) ∧
      v.ordered Operator.gt.orders w = (v.compare? w == some .gt) ∧
      v.ordered Operator.gte.orders w = atLeast (v.compare? w) ∧
      v.ordered Operator.lt.orders w = (v.compare? w == some .lt) ∧
      v.ordered Operator.lte.orders w = atMost (v.compare? w) := by
  unfold Value.ordered
  rcases v.compare? w with _ | _ | _ | _ <;> decide

theorem Value.ordered_nil (v w : Value) : v.ordered [] w = false := by
  rw [ordered]
  cases v.compare? w <;> rfl

theorem Comparison.settles_judge (c : Comparison) (row : Row) :
    (c.judge row).Settles like (c.eval like row) := by
  obtain ⟨column, operator, operand⟩ := c
  have hplain {b b' : Bool} (h : b' = b) : (Verdict.plain b').Settles like b :=
    h ▸ Verdict.settles_plain b'
  have horder (v w : Value) := v.ordered_orders w
  cases operand with
  | scalar w =>
    cases operator with
    | is =>
      cases w with
      | null => exact Verdict.settles_plain _
      | _ => exact hplain (horder _ _).1
    | eq => exact hplain (horder _ _).1
    | gt => exact hplain (horder _ _).2.1
    | gte => exact hplain (horder _ _).2.2.1
    | lt => exact hplain (horder _ _).2.2.2.1
    | lte => exact hplain (horder _ _).2.2.2.2
    | like => exact Value.settles_judgeLike _ _
    | isIn | between => exact hplain (Value.ordered_nil _ _)
  | list ws =>
    cases operator with
    | like => exact Verdict.settles_any (fun w => Value.settles_judgeLike _ w) ws
    | isIn => exact hplain (congrArg ws.any (funext fun w => (horder _ w).1))
    | _ => exact Verdict.settles_plain false
  | range low high =>
    cases operator with
    | between => exact hplain (congr (congrArg and (horder _ _).2.2.1) (horder _ _).2.2.2.2)
    | _ => exact Verdict.settles_plain false

/-- Evaluation depends on how texts are matched only through the texts asked for. -/
theorem Predicate.settles_judge (p : Predicate) (row : Row) :
    (p.judge row).Settles like (p.eval like row) := by
  induction p with
  | compare c => exact c.settles_judge row
  | and l r ihl ihr => exact ihl.and ihr
  | or l r ihl ihr => exact ihl.or ihr
  | not p ih => exact ih.not

/-! ## What is asked for -/

namespace Verdict

variable {ss : List String}

theorem asked_and_subset (hx : x.asked ⊆ ss) (hy : y.asked ⊆ ss) : (x.and y).asked ⊆ ss := by
  rw [and]
  split
  · exact List.append_subset.2 ⟨hx, hy⟩
  · exact hx

theorem asked_or_subset (hx : x.asked ⊆ ss) (hy : y.asked ⊆ ss) : (x.or y).asked ⊆ ss := by
  rw [or]
  split
  · exact hx
  · exact List.append_subset.2 ⟨hx, hy⟩

theorem asked_any_subset {α : Type} {g : α → Verdict} {us : List α}
    (h : ∀ u ∈ us, (g u).asked ⊆ ss) : (any (us.map g)).asked ⊆ ss := by
  induction us with
  | nil => exact List.nil_subset ss
  | cons u us ih =>
    obtain ⟨hu, hus⟩ := List.forall_mem_cons.1 h
    exact asked_or_subset hu (ih hus)

end Verdict

theorem Value.asked_judgeLike_subset (v w : Value) : (v.judgeLike w).asked ⊆ textsOf [w] := by
  unfold judgeLike
  split
  · exact List.Subset.refl _
  · exact List.nil_subset _

theorem Comparison.asked_judge_subset (c : Comparison) (row : Row) :
    (c.judge row).asked ⊆ c.patterns := by
  obtain ⟨column, operator, operand⟩ := c
  cases operand with
  | scalar w =>
    cases operator with
    | like => exact Value.asked_judgeLike_subset _ w
    | is => cases w <;> exact List.nil_subset _
    | _ => exact List.nil_subset _
  | list ws =>
    cases operator with
    | like =>
      refine Verdict.asked_any_subset fun w hw => ?_
      exact List.Subset.trans (Value.asked_judgeLike_subset _ w) (textsOf_subset hw)
    | _ => exact List.nil_subset _
  | range low high => cases operator <;> exact List.nil_subset _

/-- Only patterns of the predicate are asked for. -/
theorem Predicate.asked_judge_subset (p : Predicate) (row : Row) :
    (p.judge row).asked ⊆ p.patterns := by
  induction p with
  | compare c => exact c.asked_judge_subset row
  | and l r ihl ihr =>
    exact Verdict.asked_and_subset (List.subset_append_of_subset_left _ ihl)
      (List.subset_append_of_subset_right _ ihr)
  | or l r ihl ihr =>
    exact Verdict.asked_or_subset (List.subset_append_of_subset_left _ ihl)
      (List.subset_append_of_subset_right _ ihr)
  | not p ih => exact ih

/-- A matcher accepts the rows on which its predicate is judged to hold, where every pattern is read
    on the spot. Its table has been made without a row, and yet it holds, for every text that is
    asked for on any row, the pattern that reading the text would give. -/
theorem Matcher.accepts_eq_judge (p : Predicate) (row : Row) :
    (ofPredicate p).accepts row = (p.judge row).holds ∧
      (p.judge row).asked ⊆ p.patterns ∧
      ∀ s ∈ p.patterns, (ofPredicate p).patterns.get? s = Pattern.read? s.toList := by
  have htable : ∀ s ∈ p.patterns, (ofPredicate p).patterns.get? s = Pattern.read? s.toList :=
    fun _ => get?_patterns
  refine ⟨p.settles_judge row fun s hs => ?_, p.asked_judge_subset row, htable⟩
  funext t
  rw [htable s (p.asked_judge_subset row hs), matchesText]
  cases Pattern.read? s.toList <;> rfl

end RowQuery
