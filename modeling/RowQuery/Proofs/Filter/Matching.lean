import RowQuery.Filter.Evaluation

/-!
# Patterns read beforehand

A `Matcher` reads the patterns of its predicate once and looks them up on every row. That is an
economy and nothing else: evaluation asks for no pattern that has not been collected from the tree,
and under each collected text the table holds what reading it on the spot would give.

* `Predicate.eval_congr`: evaluation depends on how texts are matched only through the patterns of
  the predicate;
* `Named.get?_foldl_read`: what a table holds that is filled by reading texts in turn;
* `Matcher.accepts_eq_holds`: a matcher accepts the rows on which its predicate holds.
-/

namespace RowQuery

open Like (Pattern)

theorem matchValue_congr {like like' : String → List Char → Bool} {v w : Value}
    (h : ∀ s ∈ textsOf [w], like s = like' s) : matchValue like v w = matchValue like' v w := by
  unfold matchValue
  cases v.bare? with
  | none => rfl
  | some t =>
    cases w with
    | text s => exact congrFun (h s (by simp [textsOf])) t
    | _ => rfl

theorem textsOf_subset {v : Value} {vs : List Value} (hv : v ∈ vs) : textsOf [v] ⊆ textsOf vs := by
  intro s hs
  obtain ⟨w, hw, hws⟩ := List.mem_filterMap.1 hs
  rw [List.mem_singleton] at hw
  subst hw
  exact List.mem_filterMap.2 ⟨w, hv, hws⟩

theorem Comparison.eval_congr {like like' : String → List Char → Bool} {c : Comparison}
    (h : ∀ s ∈ c.patterns, like s = like' s) (row : Row) : c.eval like row = c.eval like' row := by
  obtain ⟨column, operator, operand⟩ := c
  cases operator with
  | like =>
    cases operand with
    | scalar w => exact matchValue_congr h
    | list ws =>
      have hw : ∀ w ∈ ws, matchValue like (row.value column) w =
          matchValue like' (row.value column) w :=
        fun w hw => matchValue_congr fun s hs => h s (textsOf_subset hw hs)
      show ws.any _ = ws.any _
      rw [Bool.eq_iff_iff, List.any_eq_true, List.any_eq_true]
      exact exists_congr fun w => and_congr_right fun hmem => by rw [hw w hmem]
    | range low high => rfl
  | _ =>
    cases operand with
    | scalar w => cases w <;> rfl
    | _ => rfl

namespace Predicate

/-- Evaluation asks only for the patterns of the predicate. -/
theorem eval_congr {like like' : String → List Char → Bool} {p : Predicate}
    (h : ∀ s ∈ p.patterns, like s = like' s) (row : Row) :
    p.eval like row = p.eval like' row := by
  induction p with
  | compare c => exact c.eval_congr h row
  | and l r ihl ihr | or l r ihl ihr =>
    simp only [patterns, List.mem_append] at h
    rw [eval, eval, ihl fun s hs => h s (.inl hs), ihr fun s hs => h s (.inr hs)]
  | not p ih => rw [eval, eval, ih h]

end Predicate

namespace Named

/-- A table that is filled by reading texts in turn holds under each of them what reading it gives,
    and nothing where that fails. -/
theorem get?_foldl_read {α : Type} (read : String → Option α) {add : Named α → String → Named α}
    (hsome : ∀ m t a, read t = some a → add m t = m.insert t a)
    (hnone : ∀ m t, read t = none → add m t = m) {ss : List String} {m : Named α} {s : String}
    (h : m.get? s = read s ∨ m.get? s = none ∧ s ∈ ss) : (ss.foldl add m).get? s = read s := by
  induction ss generalizing m with
  | nil => exact h.resolve_right fun hs => List.not_mem_nil hs.2
  | cons t ts ih =>
    rw [List.foldl_cons]
    apply ih
    by_cases hts : s = t
    · -- The text itself is read: if that fails, the table has held nothing under it before.
      subst hts
      left
      cases hr : read s with
      | some a => rw [hsome m s a hr, get?_insert_self]
      | none =>
        rw [hnone m s hr]
        exact h.elim (fun h => h.trans hr) And.left
    · have hget : (add m t).get? s = m.get? s := by
        cases hr : read t with
        | some a => rw [hsome m t a hr, get?_insert_of_ne m a hts]
        | none => rw [hnone m t hr]
      rw [hget]
      exact h.imp_right fun h => ⟨h.1, (List.mem_cons.1 h.2).resolve_left hts⟩

end Named

namespace Matcher

theorem get?_patterns {p : Predicate} {s : String} (hs : s ∈ p.patterns) :
    (ofPredicate p).patterns.get? s = Pattern.read? s.toList := by
  refine Named.get?_foldl_read (fun s => Pattern.read? s.toList) (fun m t a h => ?_)
    (fun m t h => ?_) (.inr ⟨rfl, hs⟩)
  · simp only [h]
  · simp only [h]

/-- A matcher accepts the rows on which its predicate holds. -/
theorem accepts_eq_holds (p : Predicate) (row : Row) :
    (ofPredicate p).accepts row = p.holds row := by
  refine Predicate.eval_congr (p := p) (fun s hs => ?_) row
  funext t
  rw [get?_patterns hs]

end Matcher

end RowQuery
