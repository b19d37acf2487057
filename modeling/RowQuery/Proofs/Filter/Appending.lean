import RowQuery.Proofs.Filter.Clauses
import RowQuery.Proofs.Filter.Fields

/-!
# A filter behind another one

A condition can be added to a filter by writing it behind. The text that is added begins with a
mark, so that the tokens in front of it end where they ended before, and names a field that is not
in force there, so that it begins a group. Neither the words of the filter nor its columns matter:
the filter may be anything a user has typed, as long as it is read strictly.

* `ofClauses_append`: clauses behind others compile to predicates of their own;
* `compile_append`: a filter behind another one only adds a condition.
-/

namespace RowQuery

open Text (isWord)

variable {resolve : Resolver}

namespace Predicate

theorem compile_of_parse {s : String} {cs : List Clause} (h : Clause.parse .strict s = .ok cs)
    (mode : Mode) : compile mode resolve s = ofClauses resolve cs := by
  rw [compile, Clause.parse_of_strict h]
  rfl

/-- Clauses behind others compile to predicates of their own if they begin with another field than
    the one in force. -/
theorem ofClauses_append {c d : Clause} {f g : String} (hc : c.field? = some f)
    (hd : d.field? = some g) (cs ds : List Clause) (hg : g ≠ Clause.fieldBehind f cs) :
    ofClauses resolve (c :: cs ++ d :: ds) = (do
      let ps ← (Clause.groups (c :: cs)).mapM (ClauseGroup.predicate resolve)
      let qs ← (Clause.groups (d :: ds)).mapM (ClauseGroup.predicate resolve)
      return all? (ps ++ qs)) := by
  rw [List.cons_append, ofClauses_cons hc, ← List.cons_append,
    Clause.groups_append hc hd cs ds hg, List.mapM_append]
  cases (Clause.groups (c :: cs)).mapM (ClauseGroup.predicate resolve) with
  | error e => rfl
  | ok ps => cases (Clause.groups (d :: ds)).mapM (ClauseGroup.predicate resolve) <;> rfl

/-- Clauses, of which the first names a field, make up a predicate. -/
theorem exists_all? {c : Clause} {f : String} (hc : c.field? = some f) {cs : List Clause}
    {ps : List Predicate}
    (h : (Clause.groups (c :: cs)).mapM (ClauseGroup.predicate resolve) = .ok ps) :
    ∃ p, all? ps = some p := by
  rw [Clause.groups, hc] at h
  obtain ⟨p, ps, -, -, rfl⟩ := mapM_cons_eq_ok.1 h
  exact ⟨_, rfl⟩

/-- Predicates are joined in two parts or as a whole. -/
theorem holds_all?_append {ps qs : List Predicate} {p q r : Predicate} (hp : all? ps = some p)
    (hq : all? qs = some q) (hr : all? (ps ++ qs) = some r) (row : Row) :
    r.holds row = (p.holds row && q.holds row) := by
  rw [holds_all? hr, holds_all? hp, holds_all? hq, List.all_append]

end Predicate

/-- A filter that is written behind another one, and begins with a mark and a field that is not in
    force there, only adds a condition. If one of the two does not compile, the whole fails as the
    first that does not. -/
theorem compile_append {a b : String} {as bs : List Clause}
    (ha : Clause.parse .strict a = .ok as) (hb : Clause.parse .strict b = .ok bs) (hne : as ≠ [])
    {mark : Char} {rest : List Char} (hmark : Token.isMark mark = true)
    (hrest : b.toList = mark :: rest)
    (hfield : String.ofList (rest.takeWhile isWord) ≠ Clause.fieldBehind "" as)
    (hlast : ∀ c, as.getLast? = some c → ¬ c.ReadsOn) (mode mode' : Mode) :
    (∀ e, Predicate.compile mode' resolve a = .error e →
      Predicate.compile mode resolve (a ++ b) = .error e) ∧
    (∀ p? e, Predicate.compile mode' resolve a = .ok p? →
      Predicate.compile mode' resolve b = .error e →
      Predicate.compile mode resolve (a ++ b) = .error e) ∧
    ∀ p? q?, Predicate.compile mode' resolve a = .ok p? →
      Predicate.compile mode' resolve b = .ok q? →
      ∃ p q r, p? = some p ∧ q? = some q ∧
        Predicate.compile mode resolve (a ++ b) = .ok (some r) ∧
        ∀ row, (Matcher.ofPredicate r).accepts row =
          ((Matcher.ofPredicate p).accepts row && (Matcher.ofPredicate q).accepts row) := by
  obtain ⟨d, ds, rfl, hd⟩ := Clause.exists_head_of_mark hb hmark hrest
  obtain ⟨c, cs, rfl⟩ := List.exists_cons_of_ne_nil hne
  obtain ⟨f, hc⟩ := Clause.exists_field_of_parse ha
  rw [Clause.fieldBehind_cons hc] at hfield
  have hab := Clause.parse_append ha hb hmark hrest hlast
  rw [Predicate.compile_of_parse ha, Predicate.compile_of_parse hb, Predicate.compile_of_parse hab,
    Predicate.ofClauses_append hc hd cs ds hfield, ofClauses_cons hc, ofClauses_cons hd]
  -- The groups of the first filter are compiled first.
  cases hps : (Clause.groups (c :: cs)).mapM (ClauseGroup.predicate resolve) with
  | error e => exact ⟨fun _ h => h, nofun, nofun⟩
  | ok ps =>
    cases hqs : (Clause.groups (d :: ds)).mapM (ClauseGroup.predicate resolve) with
    | error e => exact ⟨nofun, fun _ _ _ h => h, nofun⟩
    | ok qs =>
      refine ⟨nofun, nofun, fun p? q? hp? hq? => ?_⟩
      obtain ⟨p, hp⟩ := Predicate.exists_all? hc hps
      obtain ⟨q, hq⟩ := Predicate.exists_all? hd hqs
      obtain ⟨r, hr⟩ : ∃ r, Predicate.all? (ps ++ qs) = some r := by
        cases ps with
        | nil => cases hp
        | cons => exact ⟨_, rfl⟩
      obtain rfl : Predicate.all? ps = p? := Except.ok.inj hp?
      obtain rfl : Predicate.all? qs = q? := Except.ok.inj hq?
      refine ⟨p, q, r, hp, hq, congrArg Except.ok hr, fun row => ?_⟩
      rw [Matcher.accepts_eq_holds, Matcher.accepts_eq_holds, Matcher.accepts_eq_holds]
      exact Predicate.holds_all?_append hp hq hr row

/-- A condition that is added behind what a user has typed, with a blank at its end:
    `a:eq:1|~in:3,4 ` and `:b:like:x%`. -/
theorem compile_append_mandatory :
    let resolve : Resolver := fun field =>
      if field = "a" then some ⟨"a", .integer⟩ else if field = "b" then some ⟨"b", .text⟩ else none
    ∃ p q r, Predicate.compile .lenient resolve "a:eq:1|~in:3,4 " = .ok (some p) ∧
      Predicate.compile .lenient resolve ":b:like:x%" = .ok (some q) ∧
      Predicate.compile .strict resolve "a:eq:1|~in:3,4 :b:like:x%" = .ok (some r) ∧
      ∀ row, (Matcher.ofPredicate r).accepts row =
        ((Matcher.ofPredicate p).accepts row && (Matcher.ofPredicate q).accepts row) := by
  intro resolve
  have ha : Clause.parse .strict "a:eq:1|~in:3,4 " =
      .ok [⟨none, some "a", .and, false, .eq, "1"⟩, ⟨none, none, .or, true, .isIn, "3,4"⟩] := rfl
  have hb : Clause.parse .strict ":b:like:x%" =
      .ok [⟨some .and, some "b", .and, false, .like, "x%"⟩] := rfl
  obtain ⟨p, hp⟩ : ∃ p, Predicate.compile .lenient resolve "a:eq:1|~in:3,4 " = .ok (some p) :=
    ⟨_, rfl⟩
  obtain ⟨q, hq⟩ : ∃ q, Predicate.compile .lenient resolve ":b:like:x%" = .ok (some q) := ⟨_, rfl⟩
  -- The last clause is negated, and so does not read on.
  have hlast : ∀ c : Clause, some ⟨none, none, .or, true, .isIn, "3,4"⟩ = some c → ¬ c.ReadsOn := by
    rintro _ ⟨⟩ h
    cases h.2.1
  have hmark : Token.isMark ':' = true := rfl
  obtain ⟨-, -, happend⟩ :=
    compile_append ha hb (by decide) hmark rfl (by decide) hlast .strict .lenient
  obtain ⟨p', q', r, hp', hq', hr, hrows⟩ := happend _ _ hp hq
  cases hp'
  cases hq'
  exact ⟨p, q, r, hp, hq, hr, hrows⟩

end RowQuery
