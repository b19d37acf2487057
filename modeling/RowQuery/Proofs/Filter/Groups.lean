import RowQuery.Filter.Grouping
import RowQuery.Proofs.Filter.Matching
import RowQuery.Proofs.Result

/-!
# Reading clauses group by group

Clauses are compiled in one pass, by a `Grouping` that is changed clause by clause. What they mean
can be said without it. A list of clauses is *cut* into groups: a clause opens a group if it names a
field other than the one in force, or names the field in force with a connector that is not the one
of the clause that opened the current group. Every other clause continues the current group. Within
a group the comparisons are joined from left to right, each by the `joint` of its clause, and all
groups have to hold.

* `foldlM_step`: the invariant of the pass, what it makes of the clauses that are left, given the
  group it is in;
* `ofClauses_cons`: a list of clauses compiles to the predicates of its groups, joined by "and", and
  fails as the first of them fails;
* `ofClauses_induction`: what holds of comparisons and is kept by joining holds of the predicate;
* `ofClauses_reading`: the predicate of a list of clauses and what it says of a row, by groups.
-/

namespace RowQuery

/-! ## The cut -/

/-- A run of clauses on one field. -/
structure ClauseGroup where
  /-- The field in force. -/
  field : String
  /-- The clause that opens the group. -/
  opener : Clause
  /-- The clauses that continue it. -/
  rest : List Clause

namespace Clause

/-- The field with which a clause opens a group of its own behind the group of a field and an
    opener; none if it continues that group. -/
def opens? (c : Clause) (field : String) (opener : Clause) : Option String :=
  c.field?.filter fun f => f ≠ field || c.connector?.isSome && c.connector? ≠ opener.connector?

/-- What joins a clause to the clauses before it in its group. -/
def joint (c : Clause) : Connector :=
  if c.field?.isSome then c.connector?.getD c.separator else c.separator

/-- The clauses that continue the group of a field and an opener, and the groups behind it. -/
def cut (field : String) (opener : Clause) : List Clause → List Clause × List ClauseGroup
  | [] => ([], [])
  | c :: cs =>
    match c.opens? field opener with
    | some f => ([], ⟨f, c, (cut f c cs).1⟩ :: (cut f c cs).2)
    | none => (c :: (cut field opener cs).1, (cut field opener cs).2)

/-- The groups of a list of clauses. The first clause opens the first group with the field that it
    has to name. -/
def groups : List Clause → List ClauseGroup
  | [] => []
  | c :: cs =>
    match c.field? with
    | some f => ⟨f, c, (cut f c cs).1⟩ :: (cut f c cs).2
    | none => []

end Clause

/-! ## The reading -/

/-- What a connector makes of two truth values. -/
def Connector.apply : Connector → Bool → Bool → Bool
  | .and, a, b => a && b
  | .or, a, b => a || b

/-- Whether the comparison of a clause with its field in force holds on a row. -/
def Clause.holds (resolve : Resolver) (field : String) (row : Row) (c : Clause) : Bool :=
  match c.predicate resolve field with
  | .ok p => p.holds row
  | .error _ => false

namespace ClauseGroup

/-- Joins the comparison of one more clause of a field. -/
def extend (resolve : Resolver) (field : String) (p : Predicate) (c : Clause) :
    Except FilterError Predicate := do
  return c.joint.join p (← c.predicate resolve field)

/-- The comparisons of a group, joined from left to right. -/
def predicate (resolve : Resolver) (g : ClauseGroup) : Except FilterError Predicate := do
  g.rest.foldlM (extend resolve g.field) (← g.opener.predicate resolve g.field)

/-- Whether a group holds on a row: the truth values of its clauses, joined from left to right. -/
def holds (resolve : Resolver) (row : Row) (g : ClauseGroup) : Bool :=
  g.rest.foldl (fun b c => c.joint.apply b (c.holds resolve g.field row))
    (g.opener.holds resolve g.field row)

end ClauseGroup

/-! ## The pass -/

namespace Grouping

variable {resolve : Resolver} {g : Grouping} {opener c : Clause}

/-- A clause that opens no group stays in the current one. -/
theorem enter_of_continues (hk : g.connector? = opener.connector?)
    (hc : c.opens? g.field opener = none) : g.enter c = (g, c.joint) := by
  obtain ⟨k?, f?, sep, negated, operator, value⟩ := c
  cases f? with
  | none => rfl
  | some f =>
    obtain ⟨rfl, hkept⟩ : f = g.field ∧ (k?.isSome → k? = opener.connector?) := by
      simpa [Clause.opens?] using hc
    cases k? with
    | none => simp [enter, Clause.joint]
    | some k => simp [enter, Clause.joint, hk, ← hkept rfl]

/-- A clause that opens a group ends the current one. -/
theorem enter_of_opens {f : String} (hk : g.connector? = opener.connector?)
    (hc : c.opens? g.field opener = some f) :
    g.enter c = (g.openGroup f c.connector?, c.separator) := by
  obtain ⟨k?, f?, sep, negated, operator, value⟩ := c
  obtain ⟨rfl, hc⟩ := Option.filter_eq_some_iff.1 hc
  by_cases hfield : f = g.field
  · subst hfield
    cases k? with
    | none => simp at hc
    | some k =>
      have hne : opener.connector? ≠ some k := fun h => by simp [h] at hc
      simp [enter, hk, hne]
  · simp [enter, hfield]

theorem step_of_continues {q : Predicate} (hk : g.connector? = opener.connector?)
    (hq : g.group? = some q) (hc : c.opens? g.field opener = none) :
    step resolve g c = (ClauseGroup.extend resolve g.field q c).map fun p =>
      { g with group? := some p } := by
  simp only [step, enter_of_continues hk hc, ClauseGroup.extend, push, hq]
  cases c.predicate resolve g.field <;> rfl

theorem step_of_opens {q : Predicate} {f : String} (hk : g.connector? = opener.connector?)
    (hq : g.group? = some q) (hc : c.opens? g.field opener = some f) :
    step resolve g c = (c.predicate resolve f).map fun p =>
      ⟨f, c.connector?, some p, g.closed ++ [q]⟩ := by
  simp only [step, enter_of_opens hk hc, openGroup, push, close, hq]
  cases c.predicate resolve f <;> rfl

/-- What the pass makes of the clauses that are left: they complete the group it is in, and the
    groups behind follow. -/
theorem foldlM_step {q : Predicate} (hk : g.connector? = opener.connector?)
    (hq : g.group? = some q) (cs : List Clause) :
    (cs.foldlM (step resolve) g).map close = (do
      let p ← (Clause.cut g.field opener cs).1.foldlM (ClauseGroup.extend resolve g.field) q
      let ps ← (Clause.cut g.field opener cs).2.mapM (ClauseGroup.predicate resolve)
      return g.closed ++ p :: ps) := by
  -- The group in hand changes with every clause, and its opener with every group.
  induction cs generalizing g opener q with
  | nil => simp [Clause.cut, close, hq, Except.map, pure, Except.pure, bind, Except.bind]
  | cons c cs ih =>
    rw [List.foldlM_cons, Clause.cut]
    cases hc : c.opens? g.field opener with
    | none =>
      rw [step_of_continues hk hq hc]
      simp only [List.foldlM_cons]
      cases ClauseGroup.extend resolve g.field q c with
      | error e => rfl
      | ok p => exact ih (g := { g with group? := some p }) hk rfl
    | some f =>
      rw [step_of_opens hk hq hc]
      simp only [List.foldlM_nil, List.mapM_cons, ClauseGroup.predicate]
      cases c.predicate resolve f with
      | error e => rfl
      | ok p =>
        refine (ih (g := ⟨f, c.connector?, some p, g.closed ++ [q]⟩) rfl rfl).trans ?_
        simp only [pure_bind, bind_assoc, List.append_assoc, List.singleton_append]
        rfl

/-- The first clause opens a group, whatever its connector. -/
theorem step_first {f : String} (hf : c.field? = some f) :
    step resolve ⟨f, c.connector?, none, []⟩ c = (c.predicate resolve f).map fun p =>
      ⟨f, c.connector?, some p, []⟩ := by
  have he : ∃ k, enter ⟨f, c.connector?, none, []⟩ c = (⟨f, c.connector?, none, []⟩, k) := by
    obtain ⟨k?, f?, sep, negated, operator, value⟩ := c
    simp only at hf
    subst hf
    cases k? <;> simp [enter]
  obtain ⟨k, hk⟩ := he
  simp only [step, hk, push]
  cases c.predicate resolve f <;> rfl

end Grouping

/-! ## The predicate -/

variable {resolve : Resolver}

/-- A list of clauses compiles to the predicates of its groups, joined by "and", and fails as the
    first of them fails. -/
theorem ofClauses_cons {c : Clause} {f : String} (hf : c.field? = some f) (cs : List Clause) :
    Predicate.ofClauses resolve (c :: cs) =
      ((Clause.groups (c :: cs)).mapM (ClauseGroup.predicate resolve)).map Predicate.all? := by
  simp only [Predicate.ofClauses, Clause.groups, hf, List.foldlM_cons, Grouping.step_first hf,
    List.mapM_cons, ClauseGroup.predicate]
  cases hp : c.predicate resolve f with
  | error e => rfl
  | ok p =>
    -- The pass ends with the last group closed, which is what the invariant speaks of.
    have hpass : ∀ x : Except FilterError Grouping,
        (do return Predicate.all? (← x).close) = (x.map Grouping.close).map Predicate.all? := by
      intro x
      cases x <;> rfl
    have hinv : (cs.foldlM (Grouping.step resolve) ⟨f, c.connector?, some p, []⟩).map _ = _ :=
      Grouping.foldlM_step rfl rfl cs
    refine (hpass _).trans (congrArg (Except.map Predicate.all?) (hinv.trans ?_))
    rfl

/-- Predicates joined by "and" make one, unless there are none. -/
theorem Predicate.all?_eq_none_iff {ps : List Predicate} : Predicate.all? ps = none ↔ ps = [] := by
  cases ps <;> simp [Predicate.all?]

/-- Predicates joined by "and" hold exactly if all of them do. -/
theorem Predicate.holds_all? {ps : List Predicate} {p : Predicate}
    (h : Predicate.all? ps = some p) (row : Row) : p.holds row = ps.all (·.holds row) := by
  cases ps with
  | nil => cases h
  | cons q qs =>
    obtain rfl : qs.foldl .and q = p := Option.some.inj h
    rw [List.all_cons]
    induction qs generalizing q with
    | nil => simp
    | cons r rs ih =>
      rw [List.foldl_cons, ih _ rfl, List.all_cons, ← Bool.and_assoc]
      rfl

theorem Connector.holds_join (k : Connector) (p q : Predicate) (row : Row) :
    (k.join p q).holds row = k.apply (p.holds row) (q.holds row) := by
  cases k <;> rfl

namespace ClauseGroup

variable {g : ClauseGroup} {p : Predicate}

theorem extend_eq_ok {field : String} {q : Predicate} {c : Clause} :
    extend resolve field q c = .ok p ↔
      ∃ r, c.predicate resolve field = .ok r ∧ c.joint.join q r = p := by
  rw [extend, bind_eq_ok]
  exact exists_congr fun r => and_congr_right fun _ => ⟨Except.ok.inj, congrArg Except.ok⟩

/-- A group reads as its predicate does. -/
theorem holds_predicate (h : g.predicate resolve = .ok p) (row : Row) :
    p.holds row = g.holds resolve row := by
  obtain ⟨q, hq, h⟩ := bind_eq_ok.1 h
  -- The comparisons and their truth values are joined in step.
  refine foldlM_rel (R := fun p b => Predicate.holds p row = b) (fun q b c r hb hr => ?_) ?_ h
  · obtain ⟨s, hs, rfl⟩ := extend_eq_ok.1 hr
    rw [Connector.holds_join, hb, Clause.holds, hs]
  · rw [Clause.holds, hq]

/-- What holds of comparisons and is kept by joining holds of the predicate of a group. -/
theorem predicate_induction {P : Predicate → Prop}
    (comparison : ∀ f (c : Clause) p, c.predicate resolve f = .ok p → P p)
    (join : ∀ (k : Connector) p q, P p → P q → P (k.join p q))
    (h : g.predicate resolve = .ok p) : P p := by
  obtain ⟨q, hq, h⟩ := bind_eq_ok.1 h
  -- Nothing is computed beside the predicate here: the other loop stands still.
  refine foldlM_rel (R := fun p (_ : Unit) => P p) (g := fun u _ => u)
    (fun q _ c r hb hr => ?_) (comparison _ _ _ hq) h (c := ())
  obtain ⟨s, hs, rfl⟩ := extend_eq_ok.1 hr
  exact join _ _ _ hb (comparison _ _ _ hs)

end ClauseGroup

namespace Predicate

variable {cs : List Clause}

theorem ofClauses_eq_ok {p? : Option Predicate} (h : ofClauses resolve cs = .ok p?) :
    ∃ ps, (Clause.groups cs).mapM (ClauseGroup.predicate resolve) = .ok ps ∧ p? = all? ps := by
  cases cs with
  | nil =>
    cases h
    exact ⟨[], rfl, rfl⟩
  | cons c cs =>
    cases hf : c.field? with
    | none =>
      rw [ofClauses, hf] at h
      cases h
    | some f =>
      rw [ofClauses_cons hf, map_eq_ok] at h
      obtain ⟨ps, hps, rfl⟩ := h
      exact ⟨ps, hps, rfl⟩

/-- What holds of comparisons and is kept by joining holds of a compiled predicate. -/
theorem ofClauses_induction {P : Predicate → Prop}
    (comparison : ∀ f (c : Clause) p, c.predicate resolve f = .ok p → P p)
    (join : ∀ (k : Connector) p q, P p → P q → P (k.join p q)) {p : Predicate}
    (h : ofClauses resolve cs = .ok (some p)) : P p := by
  obtain ⟨ps, hps, hall⟩ := ofClauses_eq_ok h
  have hP : ∀ q ∈ ps, P q :=
    forall_mem_of_mapM (fun g q hq => ClauseGroup.predicate_induction comparison join hq) hps
  cases ps with
  | nil => cases hall
  | cons q qs =>
    obtain rfl : p = qs.foldl .and q := Option.some.inj hall
    obtain ⟨hq, hqs⟩ := List.forall_mem_cons.1 hP
    clear hall hps hP h
    induction qs generalizing q with
    | nil => exact hq
    | cons r rs ih =>
      obtain ⟨hr, hrs⟩ := List.forall_mem_cons.1 hqs
      exact ih _ (join .and q r hq hr) hrs

end Predicate

/-- The groups of clauses, of which the first names a field, are those clauses cut into pieces. -/
theorem Clause.flatMap_groups {c : Clause} {f : String} (hf : c.field? = some f)
    (cs : List Clause) :
    (groups (c :: cs)).flatMap (fun g => g.opener :: g.rest) = c :: cs := by
  have hcut : ∀ (cs : List Clause) (f : String) (c : Clause),
      (cut f c cs).1 ++ (cut f c cs).2.flatMap (fun g => g.opener :: g.rest) = cs := by
    intro cs
    induction cs with
    | nil => exact fun _ _ => rfl
    | cons d ds ih =>
      intro f c
      rw [cut]
      cases d.opens? f c with
      | none => exact congrArg (d :: ·) (ih f c)
      | some e => exact congrArg (d :: ·) (ih e d)
  rw [groups, hf]
  exact congrArg (c :: ·) (hcut cs f c)

/-- The predicate of a list of clauses is the left-nested tree of its groups, and absent only if
    there are no clauses. On a row it says that every group holds. -/
theorem ofClauses_reading {cs : List Clause} {p? : Option Predicate}
    (h : Predicate.ofClauses resolve cs = .ok p?) :
    (p? = none ↔ cs = []) ∧
      (Clause.groups cs).flatMap (fun g => g.opener :: g.rest) = cs ∧
      (∃ ps, (Clause.groups cs).mapM (ClauseGroup.predicate resolve) = .ok ps ∧
        p? = Predicate.all? ps) ∧
      ∀ p, p? = some p → ∀ row, (Matcher.ofPredicate p).accepts row =
        (Clause.groups cs).all (ClauseGroup.holds resolve row) := by
  obtain ⟨ps, hps, rfl⟩ := Predicate.ofClauses_eq_ok h
  have hgroups : (Clause.groups cs).flatMap (fun g => g.opener :: g.rest) = cs := by
    cases cs with
    | nil => rfl
    | cons c cs =>
      cases hf : c.field? with
      | none =>
        rw [Predicate.ofClauses, hf] at h
        cases h
      | some f => exact Clause.flatMap_groups hf cs
  refine ⟨?_, hgroups, ⟨ps, hps, rfl⟩, fun p hp row => ?_⟩
  · -- There are as many predicates as groups, and a group has a clause at least.
    have hlength : ps.length = (Clause.groups cs).length := by
      have := map_eq_of_mapM (r := fun _ => ()) (s := fun _ => ()) (fun _ _ _ => rfl) hps
      simpa using congrArg List.length this
    rw [Predicate.all?_eq_none_iff]
    constructor
    · rintro rfl
      rw [← hgroups, List.eq_nil_of_length_eq_zero hlength.symm]
      rfl
    · rintro rfl
      exact List.eq_nil_of_length_eq_zero hlength
  · have hholds := map_eq_of_mapM (fun g q hq => ClauseGroup.holds_predicate hq row) hps
    rw [Matcher.accepts_eq_holds, Predicate.holds_all? hp]
    have := congrArg (List.all · id) hholds
    simpa [List.all_map, Function.comp_def] using this

/-- Five clauses on two text columns, cut where the field is named again with a connector and where
    it changes: `a:eq:x|eq:y|a:eq:z|a:~eq:w:b:like:p%`. -/
theorem ofClauses_reading_three_groups :
    let clauses : List Clause :=
      [⟨none, some "a", .and, false, .eq, "x"⟩, ⟨none, none, .or, false, .eq, "y"⟩,
        ⟨some .or, some "a", .and, false, .eq, "z"⟩, ⟨some .or, some "a", .and, true, .eq, "w"⟩,
        ⟨some .and, some "b", .and, false, .like, "p%"⟩]
    let resolve : Resolver := fun field => some ⟨field, .text⟩
    (Clause.groups clauses).map (fun g => (g.field, g.rest.length)) =
        [("a", 1), ("a", 1), ("b", 0)] ∧
      ∃ p, Predicate.ofClauses resolve clauses = .ok (some p) ∧
        ∀ row, (Matcher.ofPredicate p).accepts row =
          (Clause.groups clauses).all (ClauseGroup.holds resolve row) := by
  intro clauses resolve
  refine ⟨by decide, ?_⟩
  obtain ⟨p, hp⟩ : ∃ p, Predicate.ofClauses resolve clauses = .ok (some p) := ⟨_, rfl⟩
  exact ⟨p, hp, (ofClauses_reading hp).2.2.2 p rfl⟩

end RowQuery
