import RowQuery.Proofs.Filter.Groups

/-!
# Fields in force

A clause that names no field goes on with the one in force, which is the last one that was named.
The fields in force are all that clauses hand on to those behind them: if clauses begin with another
field than the one in force, they are grouped as if they stood alone.

* `inForce`: clauses with the fields in force;
* `groups_append`: the groups of clauses that name another field are groups of their own;
* `ofClauses_eq_error_iff`: clauses fail as the first of them fails, each with its field in force.
-/

namespace RowQuery

namespace Clause

/-- The field in force behind clauses, given the one in force before them. -/
def fieldBehind (field : String) (cs : List Clause) : String :=
  cs.foldl (fun f c => c.field?.getD f) field

/-- Clauses with the fields in force, given the one in force before them. -/
def inForce (field : String) : List Clause → List (String × Clause)
  | [] => []
  | c :: cs => (c.field?.getD field, c) :: inForce (c.field?.getD field) cs

variable {c d opener : Clause} {field f g : String}

theorem fieldBehind_cons (hc : c.field? = some f) (cs : List Clause) :
    fieldBehind field (c :: cs) = fieldBehind f cs := by
  rw [fieldBehind, List.foldl_cons, hc]
  rfl

/-- A clause that opens no group leaves the field in force. -/
theorem field_of_continues (h : c.opens? field opener = none) : c.field?.getD field = field := by
  cases hc : c.field? with
  | none => rfl
  | some f =>
    have hkept : f = field ∧ (c.connector?.isSome = true → c.connector? = opener.connector?) := by
      simpa [opens?, hc] using h
    exact hkept.1

/-- A clause that names another field than the one in force opens a group. -/
theorem opens?_of_ne (hc : c.field? = some g) (hg : g ≠ field) :
    c.opens? field opener = some g := by
  simp [opens?, hc, hg]

/-- A clause that names another field than the one in force cuts clauses in two. -/
theorem cut_append (hc : c.field? = some g) (ds : List Clause) {cs : List Clause}
    (hg : g ≠ fieldBehind field cs) :
    cut field opener (cs ++ c :: ds) = ((cut field opener cs).1,
      (cut field opener cs).2 ++ ⟨g, c, (cut g c ds).1⟩ :: (cut g c ds).2) := by
  -- The field in force and the opener change along the way.
  induction cs generalizing field opener with
  | nil =>
    have hg : g ≠ field := hg
    simp only [List.nil_append, cut, opens?_of_ne hc hg]
  | cons d cs ih =>
    rw [List.cons_append, cut, cut]
    have hg : g ≠ fieldBehind (d.field?.getD field) cs := hg
    cases hd : d.opens? field opener with
    | some e =>
      have he : d.field? = some e := (Option.filter_eq_some_iff.1 hd).1
      rw [he] at hg
      have hg : g ≠ fieldBehind e cs := hg
      simp only [ih hg]
      rfl
    | none =>
      rw [field_of_continues hd] at hg
      simp only [ih hg]

/-- The groups of clauses that name another field than the one in force are groups of their own. -/
theorem groups_append (hc : c.field? = some f) (hd : d.field? = some g) (cs ds : List Clause)
    (hg : g ≠ fieldBehind f cs) :
    groups (c :: cs ++ d :: ds) = groups (c :: cs) ++ groups (d :: ds) := by
  simp only [List.cons_append, groups, hc, hd, cut_append hd ds hg]

end Clause

/-! ## What fails -/

variable {resolve : Resolver}

namespace Grouping

/-- A clause is taken with its field in force. -/
theorem field_enter (g : Grouping) (c : Clause) : (g.enter c).1.field = c.field?.getD g.field := by
  rw [enter]
  cases c.field? with
  | none => rfl
  | some f =>
    by_cases hf : f = g.field
    · subst hf
      cases c.connector? with
      | none => simp
      | some k => by_cases hk : g.connector? = some k <;> simp [hk, openGroup]
    · simp [hf, openGroup]

theorem step_eq (g : Grouping) (c : Clause) : step resolve g c =
    (c.predicate resolve (c.field?.getD g.field)).map ((g.enter c).1.push (g.enter c).2) := by
  rw [← field_enter]
  show (c.predicate resolve (g.enter c).1.field >>= _) = _
  cases c.predicate resolve (g.enter c).1.field <;> rfl

/-- The pass fails as the first clause fails, whatever the groups. -/
theorem foldlM_step_eq_error_iff {e : FilterError} (cs : List Clause) (g : Grouping) :
    cs.foldlM (step resolve) g = .error e ↔
      (Clause.inForce g.field cs).mapM (fun x => x.2.predicate resolve x.1) = .error e := by
  induction cs generalizing g with
  | nil => exact ⟨nofun, nofun⟩
  | cons c cs ih =>
    rw [List.foldlM_cons, Clause.inForce, List.mapM_cons, step_eq]
    cases c.predicate resolve (c.field?.getD g.field) with
    | error e' => simp [Except.map, bind, Except.bind]
    | ok p =>
      refine (ih ((g.enter c).1.push (g.enter c).2 p)).trans ?_
      have hfield : ((g.enter c).1.push (g.enter c).2 p).field = c.field?.getD g.field :=
        g.field_enter c
      rw [hfield]
      cases (Clause.inForce (c.field?.getD g.field) cs).mapM
        (fun x => x.2.predicate resolve x.1) <;> simp [bind, Except.bind, pure, Except.pure]

end Grouping

/-- Clauses fail as the first of them fails, each with its field in force. -/
theorem ofClauses_eq_error_iff {c : Clause} {f : String} (hc : c.field? = some f)
    {cs : List Clause} {e : FilterError} : Predicate.ofClauses resolve (c :: cs) = .error e ↔
      (Clause.inForce f (c :: cs)).mapM (fun x => x.2.predicate resolve x.1) = .error e := by
  rw [← Grouping.foldlM_step_eq_error_iff (c :: cs) ⟨f, c.connector?, none, []⟩]
  have hclose : ∀ x : Except FilterError Grouping,
      (do return Predicate.all? (← x).close) = Except.error e ↔ x = .error e := by
    intro x
    cases x <;> simp [bind, Except.bind, pure, Except.pure]
  rw [Predicate.ofClauses, hc]
  exact hclose _

end RowQuery
