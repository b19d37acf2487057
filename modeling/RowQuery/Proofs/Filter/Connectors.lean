import RowQuery.Proofs.Filter.Appending
import RowQuery.Proofs.Filter.Failing

/-!
# Connectors left out

A clause that names another field than the one in force may leave its connector out. Its group is
joined to those before it by "and" all the same, but it is not quite the group that the connector
"and" opens: a later clause that names the field once more with "and" continues the latter, and
opens a group of its own behind the former. So two lists of clauses that differ in such connectors
have the same groups, but for some that are cut in two in one of the lists (`Regrouped`). A group
and its two parts hold on the same rows, unless an "or" in the second part lets the whole hold where
the first part does not (`ClauseGroup.Revived`).

* `Block.regrouped_continued`: the invariant of the cut, for two lists at once;
* `ClauseGroup.holds_cut`: what a group says of a row, and what its two parts say;
* `Regrouped.holds_or_revived`: what the groups of both lists say;
* `ofClauses_like`: what compiling both lists comes to;
* `ofClauses_like_revived`: two lists that differ on a row.
-/

namespace RowQuery

variable {resolve : Resolver} {row : Row}

/-! ## Lists that differ in connectors left out -/

namespace Clause

/-- Clauses that differ at most in that one has the connector "and" and the other none. -/
inductive Twins : Clause → Clause → Prop
  | same (c : Clause) : Twins c c
  | supplied {c : Clause} (h : c.connector? = none) : Twins c { c with connector? := some .and }
  | omitted {c : Clause} (h : c.connector? = none) : Twins { c with connector? := some .and } c

/-- Lists of clauses behind a field in force, if there is one. Clauses that name another field than
    the one in force are twins, and the others are the same. -/
inductive LikeBehind : Option String → List Clause → List Clause → Prop
  | nil {field? : Option String} : LikeBehind field? [] []
  | same {field? : Option String} (c : Clause) {cs ds : List Clause}
      (h : LikeBehind (c.field?.or field?) cs ds) : LikeBehind field? (c :: cs) (c :: ds)
  | twins {field? : Option String} {c d : Clause} {f : String} {cs ds : List Clause}
      (htwins : c.Twins d) (hc : c.field? = some f) (hne : field? ≠ some f)
      (h : LikeBehind (some f) cs ds) : LikeBehind field? (c :: cs) (d :: ds)

/-- Lists of clauses that differ at most in that some clauses, not the first, that name another
    field than the one in force have the connector "and" in one of the lists and none in the
    other. -/
inductive Like : List Clause → List Clause → Prop
  | nil : Like [] []
  | cons (c : Clause) {cs ds : List Clause} (h : LikeBehind c.field? cs ds) :
      Like (c :: cs) (c :: ds)

namespace Twins

variable {c d : Clause}

theorem sameTest (h : c.Twins d) : c.SameTest d := by
  cases h <;> exact ⟨rfl, rfl, rfl, rfl⟩

theorem field? (h : c.Twins d) : d.field? = c.field? :=
  h.sameTest.field?

theorem holds (h : c.Twins d) (resolve : Resolver) (field : String) (row : Row) :
    d.holds resolve field row = c.holds resolve field row := by
  cases h <;> rfl

end Twins

theorem LikeBehind.sameTests {field? : Option String} {cs ds : List Clause}
    (h : LikeBehind field? cs ds) : List.Forall₂ SameTest cs ds := by
  induction h with
  | nil => exact .nil
  | same c _ ih => exact .cons ⟨rfl, rfl, rfl, rfl⟩ ih
  | twins htwins _ _ _ ih => exact .cons htwins.sameTest ih

/-- Twins are compared alike, each with its field in force. -/
theorem LikeBehind.mapM_predicate {f : String} {cs ds : List Clause}
    (h : LikeBehind (some f) cs ds) (resolve : Resolver) :
    (inForce f ds).mapM (fun x => x.2.predicate resolve x.1) =
      (inForce f cs).mapM (fun x => x.2.predicate resolve x.1) :=
  SameTest.mapM_predicate h.sameTests f

end Clause

/-! ## The cut of two lists -/

namespace ClauseGroup

/-- A group with the clauses that continue it, and the groups behind. -/
def continued (g : ClauseGroup) (cs : List Clause) : List ClauseGroup :=
  { g with rest := g.rest ++ (Clause.cut g.field g.opener cs).1 } ::
    (Clause.cut g.field g.opener cs).2

/-- A group with one more clause. -/
def push (g : ClauseGroup) (c : Clause) : ClauseGroup :=
  { g with rest := g.rest ++ [c] }

variable {g : ClauseGroup} {c : Clause}

theorem continued_nil (g : ClauseGroup) : g.continued [] = [g] := by
  rw [continued, Clause.cut, List.append_nil]

theorem continued_of_continues (h : c.opens? g.field g.opener = none) (cs : List Clause) :
    g.continued (c :: cs) = (g.push c).continued cs := by
  simp [continued, push, Clause.cut, h]

theorem continued_of_opens {f : String} (h : c.opens? g.field g.opener = some f)
    (cs : List Clause) : g.continued (c :: cs) = g :: (⟨f, c, []⟩ : ClauseGroup).continued cs := by
  simp [continued, Clause.cut, h]

end ClauseGroup

/-- The groups of a field that are made of the same clauses in two lists, with the last of them in
    each list apart. There is one in both lists, or there are two in one of them, of which the
    second is opened by a clause that names the field once more with "and". -/
inductive Block (f : String) :
    List ClauseGroup → ClauseGroup → List ClauseGroup → ClauseGroup → Prop
  | one {c d : Clause} (h : c.Twins d) (rest : List Clause) :
      Block f [] ⟨f, c, rest⟩ [] ⟨f, d, rest⟩
  | left {opener again : Clause} (h : opener.connector? = none) (hfield : again.field? = some f)
      (hagain : again.connector? = some .and) (before behind : List Clause) :
      Block f [⟨f, opener, before⟩] ⟨f, again, behind⟩
        [] ⟨f, { opener with connector? := some .and }, before ++ again :: behind⟩
  | right {opener again : Clause} (h : opener.connector? = none) (hfield : again.field? = some f)
      (hagain : again.connector? = some .and) (before behind : List Clause) :
      Block f [] ⟨f, { opener with connector? := some .and }, before ++ again :: behind⟩
        [⟨f, opener, before⟩] ⟨f, again, behind⟩

/-- Groups that are the same in two lists, but for some that are cut in two in one of them. -/
inductive Regrouped : List ClauseGroup → List ClauseGroup → Prop
  | nil : Regrouped [] []
  | block {f : String} {gs hs gs' hs' : List ClauseGroup} {g h : ClauseGroup}
      (hblock : Block f gs g hs h) (hrest : Regrouped gs' hs') :
      Regrouped (gs ++ g :: gs') (hs ++ h :: hs')

namespace Block

variable {f : String} {gs hs : List ClauseGroup} {g h : ClauseGroup} {c d : Clause}

theorem fields (hblock : Block f gs g hs h) : g.field = f ∧ h.field = f := by
  cases hblock <;> exact ⟨rfl, rfl⟩

theorem push (hblock : Block f gs g hs h) (c : Clause) : Block f gs (g.push c) hs (h.push c) := by
  cases hblock with
  | one htwins rest => exact .one htwins (rest ++ [c])
  | left ho hfield hagain before behind =>
    have := Block.left ho hfield hagain before (behind ++ [c])
    rwa [← List.cons_append, ← List.append_assoc] at this
  | right ho hfield hagain before behind =>
    have := Block.right ho hfield hagain before (behind ++ [c])
    rwa [← List.cons_append, ← List.append_assoc] at this

/-- The last groups are both continued by a clause or both ended, unless it names the field once
    more with "and" and cuts one of them. -/
theorem opens?_cases (hblock : Block f gs g hs h) (c : Clause) :
    c.opens? g.field g.opener = c.opens? h.field h.opener ∨
    (c.opens? g.field g.opener = some f ∧ c.opens? h.field h.opener = none ∧
      Block f (gs ++ [g]) ⟨f, c, []⟩ hs (h.push c)) ∨
    (c.opens? g.field g.opener = none ∧ c.opens? h.field h.opener = some f ∧
      Block f gs (g.push c) (hs ++ [h]) ⟨f, c, []⟩) := by
  -- Only the connector of the opener tells two groups of one field apart.
  have hsame : ∀ {o o' : Clause}, o.connector? = o'.connector? → c.opens? f o = c.opens? f o' := by
    intro o o' ho
    rw [Clause.opens?, Clause.opens?, ho]
  have hcut : ∀ o : Clause, o.connector? = none →
      c.opens? f o = c.opens? f { o with connector? := some .and } ∨
        (c.opens? f o = some f ∧ c.opens? f { o with connector? := some .and } = none ∧
          c.field? = some f ∧ c.connector? = some .and) := by
    intro o ho
    by_cases hnamed : c.field? = some f
    · rcases hk : c.connector? with _ | (_ | _) <;> simp [Clause.opens?, hnamed, hk, ho]
    · left
      rcases hc : c.field? with _ | f'
      · simp [Clause.opens?, hc]
      · have hne : f' ≠ f := fun heq => hnamed (heq ▸ hc)
        rw [Clause.opens?_of_ne hc hne, Clause.opens?_of_ne hc hne]
  cases hblock with
  | @one o o' htwins rest =>
    cases htwins with
    | same => exact .inl rfl
    | supplied ho =>
      rcases hcut o ho with heq | ⟨hleft, hright, hfield, hk⟩
      · exact .inl heq
      · exact .inr (.inl ⟨hleft, hright, .left ho hfield hk rest []⟩)
    | omitted ho =>
      rcases hcut o' ho with heq | ⟨hright, hleft, hfield, hk⟩
      · exact .inl heq.symm
      · exact .inr (.inr ⟨hleft, hright, .right ho hfield hk rest []⟩)
  | left ho hfield hagain before behind => exact .inl (hsame hagain)
  | right ho hfield hagain before behind => exact .inl (hsame hagain.symm)

/-- What the clauses behind make of the last groups. -/
theorem regrouped_continued (hblock : Block f gs g hs h) {cs ds : List Clause}
    (hlike : Clause.LikeBehind (some f) cs ds) :
    Regrouped (gs ++ g.continued cs) (hs ++ h.continued ds) := by
  generalize hin : some f = field? at hlike
  -- The last groups and their field change along the way.
  induction hlike generalizing f gs g hs h with
  | nil =>
    rw [ClauseGroup.continued_nil, ClauseGroup.continued_nil]
    exact .block hblock .nil
  | @same _ c cs ds _ ih =>
    subst hin
    obtain ⟨hg, hh⟩ := hblock.fields
    have hkept : c.opens? f g.opener = none ∨ c.opens? f h.opener = none →
        some f = c.field?.or (some f) := by
      intro hnone
      have hfield : c.field?.getD f = f :=
        hnone.elim Clause.field_of_continues Clause.field_of_continues
      cases hc : c.field? with
      | none => rfl
      | some f' =>
        rw [hc] at hfield
        exact congrArg some hfield.symm
    rcases hblock.opens?_cases c with heq | ⟨hleft, hright, hnext⟩ | ⟨hleft, hright, hnext⟩
    · cases hopens : c.opens? g.field g.opener with
      | none =>
        rw [hopens] at heq
        rw [ClauseGroup.continued_of_continues hopens,
          ClauseGroup.continued_of_continues heq.symm]
        exact ih (hblock.push c) (hkept (.inl (hg ▸ hopens)))
      | some f' =>
        rw [hopens] at heq
        rw [ClauseGroup.continued_of_opens hopens, ClauseGroup.continued_of_opens heq.symm]
        have hc : c.field? = some f' := (Option.filter_eq_some_iff.1 hopens).1
        refine .block hblock (ih (.one (.same c) []) ?_)
        rw [hc]
        rfl
    · rw [ClauseGroup.continued_of_opens hleft, ClauseGroup.continued_of_continues hright]
      have := ih hnext (hkept (.inr (hh ▸ hright)))
      rwa [List.append_assoc] at this
    · rw [ClauseGroup.continued_of_continues hleft, ClauseGroup.continued_of_opens hright]
      have := ih hnext (hkept (.inl (hg ▸ hleft)))
      rwa [List.append_assoc] at this
  | @twins _ c d f' cs ds htwins hc hne _ ih =>
    subst hin
    obtain ⟨hg, hh⟩ := hblock.fields
    have hother : f' ≠ f := fun heq => hne (congrArg some heq.symm)
    rw [ClauseGroup.continued_of_opens (hg ▸ Clause.opens?_of_ne hc hother),
      ClauseGroup.continued_of_opens (hh ▸ Clause.opens?_of_ne (htwins.field?.trans hc) hother)]
    exact .block hblock (ih (.one htwins []) rfl)

end Block

/-- Like lists have the same groups, but for some that are cut in two in one of them. -/
theorem Clause.Like.regrouped {cs ds : List Clause} (h : Like cs ds) :
    Regrouped (groups cs) (groups ds) := by
  cases h with
  | nil => exact .nil
  | cons c h =>
    cases hc : c.field? with
    | none => simpa [groups, hc] using Regrouped.nil
    | some f =>
      rw [hc] at h
      have := (Block.one (f := f) (.same c) []).regrouped_continued h
      simpa [groups, hc, ClauseGroup.continued] using this

/-! ## What the groups say of a row -/

/-- Groups that are cut in two among others, and hold on a row although their first part does not:
    by an "or" in the second part. -/
inductive ClauseGroup.Revived (resolve : Resolver) (row : Row) (others : List ClauseGroup) :
    ClauseGroup → Prop
  | intro {f : String} {opener again : Clause} {before behind : List Clause}
      (hopener : opener.connector? = none) (hfield : again.field? = some f)
      (hagain : again.connector? = some .and) (hfirst : ⟨f, opener, before⟩ ∈ others)
      (hsecond : ⟨f, again, behind⟩ ∈ others)
      (hfalse : (⟨f, opener, before⟩ : ClauseGroup).holds resolve row = false)
      (hor : ∃ c ∈ behind, c.joint = .or ∧ c.holds resolve f row = true)
      (hholds : (⟨f, { opener with connector? := some .and }, before ++ again :: behind⟩ :
        ClauseGroup).holds resolve row = true) :
      Revived resolve row others
        ⟨f, { opener with connector? := some .and }, before ++ again :: behind⟩

namespace ClauseGroup

variable {f : String}

/-- Only an "or" makes something true that is not. -/
theorem exists_or_of_foldl {cs : List Clause}
    (h : cs.foldl (fun b c => c.joint.apply b (c.holds resolve f row)) false = true) :
    ∃ c ∈ cs, c.joint = .or ∧ c.holds resolve f row = true := by
  induction cs with
  | nil => cases h
  | cons c cs ih =>
    rw [List.foldl_cons] at h
    by_cases hc : c.joint = .or ∧ c.holds resolve f row = true
    · exact ⟨c, List.mem_cons_self, hc⟩
    · have hfalse : c.joint.apply false (c.holds resolve f row) = false := by
        cases hj : c.joint with
        | and => rfl
        | or =>
          show (false || c.holds resolve f row) = false
          rw [Bool.false_or]
          exact Bool.eq_false_iff.2 fun hholds => hc ⟨hj, hholds⟩
      rw [hfalse] at h
      obtain ⟨d, hd, hor⟩ := ih h
      exact ⟨d, List.mem_cons_of_mem c hd, hor⟩

/-- Among more groups, the same ones are revived. -/
theorem Revived.mono {others others' : List ClauseGroup} {g : ClauseGroup}
    (h : g.Revived resolve row others) (hsub : others ⊆ others') :
    g.Revived resolve row others' := by
  cases h with
  | intro hopener hfield hagain hfirst hsecond hfalse hor hholds =>
    exact .intro hopener hfield hagain (hsub hfirst) (hsub hsecond) hfalse hor hholds

/-- A group says the same as its two parts, or is revived among them. -/
theorem holds_cut {opener again : Clause} (ho : opener.connector? = none)
    (hfield : again.field? = some f) (hagain : again.connector? = some .and)
    (before behind : List Clause) :
    (⟨f, { opener with connector? := some .and }, before ++ again :: behind⟩ :
        ClauseGroup).holds resolve row =
      ((⟨f, opener, before⟩ : ClauseGroup).holds resolve row &&
        (⟨f, again, behind⟩ : ClauseGroup).holds resolve row) ∨
    (⟨f, { opener with connector? := some .and }, before ++ again :: behind⟩ :
      ClauseGroup).Revived resolve row [⟨f, opener, before⟩, ⟨f, again, behind⟩] := by
  have hjoint : again.joint = .and := by
    rw [Clause.joint, hfield, hagain]
    rfl
  have hwhole : (⟨f, { opener with connector? := some .and }, before ++ again :: behind⟩ :
      ClauseGroup).holds resolve row =
      behind.foldl (fun b c => c.joint.apply b (c.holds resolve f row))
        ((⟨f, opener, before⟩ : ClauseGroup).holds resolve row && again.holds resolve f row) := by
    simp only [holds, List.foldl_append, List.foldl_cons, hjoint]
    rfl
  cases hbefore : (⟨f, opener, before⟩ : ClauseGroup).holds resolve row with
  | true =>
    left
    rw [hwhole, hbefore, Bool.true_and, Bool.true_and]
    rfl
  | false =>
    rw [Bool.false_and]
    cases hholds : (⟨f, { opener with connector? := some .and }, before ++ again :: behind⟩ :
      ClauseGroup).holds resolve row with
    | false => exact .inl rfl
    | true =>
      have hor := hholds
      rw [hwhole, hbefore, Bool.false_and] at hor
      exact .inr (.intro ho hfield hagain (by simp) (by simp) hbefore (exists_or_of_foldl hor)
        hholds)

end ClauseGroup

/-- The last groups of both lists, with those cut off them, say the same of a row, unless one of
    them is revived among those of the other list. -/
theorem Block.holds_or_revived {f : String} {gs hs : List ClauseGroup} {g h : ClauseGroup}
    (hblock : Block f gs g hs h) :
    (gs ++ [g]).all (ClauseGroup.holds resolve row) =
        (hs ++ [h]).all (ClauseGroup.holds resolve row) ∨
      g.Revived resolve row (hs ++ [h]) ∨ h.Revived resolve row (gs ++ [g]) := by
  cases hblock with
  | one htwins rest => exact .inl (by simp [ClauseGroup.holds, htwins.holds])
  | left ho hfield hagain before behind =>
    have hcut := @ClauseGroup.holds_cut resolve row f _ _ ho hfield hagain before behind
    rcases hcut with heq | hrevived
    · exact .inl (by simp [heq])
    · exact .inr (.inr hrevived)
  | right ho hfield hagain before behind =>
    have hcut := @ClauseGroup.holds_cut resolve row f _ _ ho hfield hagain before behind
    rcases hcut with heq | hrevived
    · exact .inl (by simp [heq])
    · exact .inr (.inl hrevived)

/-- The groups of both lists say the same of a row, unless one of them is revived among those of the
    other list. -/
theorem Regrouped.holds_or_revived {gs hs : List ClauseGroup} (h : Regrouped gs hs) :
    gs.all (ClauseGroup.holds resolve row) = hs.all (ClauseGroup.holds resolve row) ∨
      (∃ g ∈ gs, g.Revived resolve row hs) ∨ ∃ g ∈ hs, g.Revived resolve row gs := by
  induction h with
  | nil => exact .inl rfl
  | @block f gs hs gs' hs' g h hblock _ ih =>
    have hleft : gs ++ [g] ⊆ gs ++ g :: gs' := by simp
    have hright : hs ++ [h] ⊆ hs ++ h :: hs' := by simp
    have hleft' : gs' ⊆ gs ++ g :: gs' := fun x hx => by simp [hx]
    have hright' : hs' ⊆ hs ++ h :: hs' := fun x hx => by simp [hx]
    rcases @Block.holds_or_revived resolve row _ _ _ _ _ hblock with hlast | hg | hh
    · rcases ih with heq | ⟨x, hx, hrevived⟩ | ⟨x, hx, hrevived⟩
      · left
        rw [List.append_cons, List.append_cons hs, List.all_append, hlast, heq, ← List.all_append]
      · exact .inr (.inl ⟨x, hleft' hx, hrevived.mono hright'⟩)
      · exact .inr (.inr ⟨x, hright' hx, hrevived.mono hleft'⟩)
    · exact .inr (.inl ⟨g, by simp, hg.mono hright⟩)
    · exact .inr (.inr ⟨h, by simp, hh.mono hleft⟩)

/-- A predicate holds where all groups of its clauses do. -/
theorem holds_of_groups {cs : List Clause} {ps : List Predicate} {p : Predicate}
    (hps : (Clause.groups cs).mapM (ClauseGroup.predicate resolve) = .ok ps)
    (hp : Predicate.all? ps = some p) (row : Row) :
    p.holds row = (Clause.groups cs).all (ClauseGroup.holds resolve row) := by
  have hholds : ps.map (·.holds row) = (Clause.groups cs).map (ClauseGroup.holds resolve row) :=
    map_eq_of_mapM (fun g q hq => ClauseGroup.holds_predicate hq row) hps
  rw [Predicate.holds_all? hp]
  simpa [List.all_map, Function.comp_def] using congrArg (List.all · id) hholds

/-- Two lists of clauses that differ at most in that some clauses, not the first, that name another
    field than the one in force have the connector "and" in one of them and none in the other. They
    fail alike or make predicates that accept the same rows, but for rows on which a group of one
    list that is cut in two in the other is revived. -/
theorem ofClauses_like {cs ds : List Clause} (h : Clause.Like cs ds) :
    (∀ e, Predicate.ofClauses resolve cs = .error e ↔ Predicate.ofClauses resolve ds = .error e) ∧
    ∀ p? q?, Predicate.ofClauses resolve cs = .ok p? → Predicate.ofClauses resolve ds = .ok q? →
      (p? = none ∧ q? = none) ∨ ∃ p q, p? = some p ∧ q? = some q ∧ ∀ row,
        (Matcher.ofPredicate p).accepts row = (Matcher.ofPredicate q).accepts row ∨
        (∃ g ∈ Clause.groups cs, g.Revived resolve row (Clause.groups ds)) ∨
        ∃ g ∈ Clause.groups ds, g.Revived resolve row (Clause.groups cs) := by
  refine ⟨fun e => ?_, fun p? q? hp? hq? => ?_⟩
  · cases h with
    | nil => exact Iff.rfl
    | cons c h =>
      cases hc : c.field? with
      | none => simp [Predicate.ofClauses, hc]
      | some f =>
        rw [hc] at h
        have hbehind : Clause.LikeBehind (some f) (c :: _) (c :: _) :=
          .same c (by rw [hc]; exact h)
        rw [ofClauses_eq_error_iff hc, ofClauses_eq_error_iff hc, hbehind.mapM_predicate]
  · have hgroups := h.regrouped
    obtain ⟨ps, hps, rfl⟩ := Predicate.ofClauses_eq_ok hp?
    obtain ⟨qs, hqs, rfl⟩ := Predicate.ofClauses_eq_ok hq?
    cases h with
    | nil =>
      cases hps
      cases hqs
      exact .inl ⟨rfl, rfl⟩
    | cons c h =>
      cases hc : c.field? with
      | none =>
        rw [Predicate.ofClauses, hc] at hp?
        cases hp?
      | some f =>
        obtain ⟨p, hp⟩ := Predicate.exists_all? hc hps
        obtain ⟨q, hq⟩ := Predicate.exists_all? hc hqs
        refine .inr ⟨p, q, hp, hq, fun row => ?_⟩
        rw [Matcher.accepts_eq_holds, Matcher.accepts_eq_holds, holds_of_groups hps hp,
          holds_of_groups hqs hq]
        exact hgroups.holds_or_revived

/-- Four clauses, of which the third names another field, with "and" or without a connector, and the
    last goes on with it: `a:eq:1|eq:2`, `b:~eq:3` and `|eq:4`. -/
theorem ofClauses_like_two_fields :
    let resolve : Resolver := fun field => some ⟨field, .integer⟩
    let clauses (connector? : Option Connector) : List Clause :=
      [⟨none, some "a", .and, false, .eq, "1"⟩, ⟨none, none, .or, false, .eq, "2"⟩,
        ⟨connector?, some "b", .and, true, .eq, "3"⟩, ⟨none, none, .or, false, .eq, "4"⟩]
    ∃ p q, Predicate.ofClauses resolve (clauses none) = .ok (some p) ∧
      Predicate.ofClauses resolve (clauses (some .and)) = .ok (some q) ∧
      ∀ row, (Matcher.ofPredicate p).accepts row = (Matcher.ofPredicate q).accepts row := by
  intro resolve clauses
  have hlike : Clause.Like (clauses none) (clauses (some .and)) :=
    .cons _ (.same _ (.twins (.supplied rfl) rfl (by decide) (.same _ .nil)))
  obtain ⟨p, hp⟩ : ∃ p, Predicate.ofClauses resolve (clauses none) = .ok (some p) := ⟨_, rfl⟩
  obtain ⟨q, hq⟩ : ∃ q, Predicate.ofClauses resolve (clauses (some .and)) = .ok (some q) := ⟨_, rfl⟩
  refine ⟨p, q, hp, hq, fun row => ?_⟩
  obtain ⟨-, hrows⟩ := @ofClauses_like resolve _ _ hlike
  obtain ⟨⟨⟩, -⟩ | ⟨p', q', hp', hq', hrow⟩ := hrows _ _ hp hq
  cases hp'
  cases hq'
  -- No clause that continues a group names its field.
  have hnone : ∀ g ∈ Clause.groups (clauses none) ++ Clause.groups (clauses (some .and)),
      ∀ c ∈ g.rest, c.field? = none := by decide
  have hnot : ∀ g ∈ Clause.groups (clauses none) ++ Clause.groups (clauses (some .and)),
      ∀ others, ¬g.Revived resolve row others := by
    intro g hg others hrevived
    cases hrevived with
    | intro _ hfield _ _ _ _ _ _ =>
      have := hnone _ hg _ (List.mem_append_right _ List.mem_cons_self)
      rw [hfield] at this
      cases this
  rcases hrow row with heq | ⟨g, hg, hrevived⟩ | ⟨g, hg, hrevived⟩
  · exact heq
  · exact absurd hrevived (hnot g (List.mem_append_left _ hg) _)
  · exact absurd hrevived (hnot g (List.mem_append_right _ hg) _)

/-- A row on which a group is revived: `a:eq:1`, `b:eq:2` and `:b:eq:4|eq:5`, where the second
    clause has no connector or has "and". -/
theorem ofClauses_like_revived :
    let resolve : Resolver := fun field => some ⟨field, .integer⟩
    let clauses (connector? : Option Connector) : List Clause :=
      [⟨none, some "a", .and, false, .eq, "1"⟩, ⟨connector?, some "b", .and, false, .eq, "2"⟩,
        ⟨some .and, some "b", .and, false, .eq, "4"⟩, ⟨none, none, .or, false, .eq, "5"⟩]
    let row : Row := Named.ofList [("a", .int 1), ("b", .int 5)]
    Clause.Like (clauses none) (clauses (some .and)) ∧
      ∃ p q, Predicate.ofClauses resolve (clauses none) = .ok (some p) ∧
        Predicate.ofClauses resolve (clauses (some .and)) = .ok (some q) ∧
        (Matcher.ofPredicate p).accepts row = false ∧
        (Matcher.ofPredicate q).accepts row = true := by
  intro resolve clauses row
  refine ⟨?_, _, _, rfl, rfl, by decide +kernel, by decide +kernel⟩
  exact .cons _ (.twins (.supplied rfl) rfl (by decide) (.same _ (.same _ .nil)))

end RowQuery
