import RowQuery.Proofs.Filter.Matching

/-!
# Texts cut along a pattern

What a pattern means is said by its text and not by its parts (`Along`): a text matches if it can be
cut into pieces that the characters of the pattern take in turn. Which cut that is need not be
guessed. A row tells of every end of the text whether it can be cut along an end of the pattern
(`Tells`); from the row of an end of the pattern comes the row of the end that is longer by one part,
so by induction on the pattern the last row tells of the text as a whole.

* `Tells.run`, `Tells.one`, `Tells.char`: what the rows of the three parts tell;
* `tells_row`: what the row of a pattern tells;
* `like_iff_along`: a pattern that can be read, and a comparison with it, match the texts that can
  be cut along it.
-/

namespace RowQuery

namespace Like

/-- Whether a text can be cut along the text of a pattern. -/
inductive Along : List Char → List Char → Prop
  | nil : Along [] []
  /-- A percent sign takes any run of characters. -/
  | run (taken : List Char) {s t : List Char} : Along s t → Along ('%' :: s) (taken ++ t)
  /-- An underscore takes one character. -/
  | one (c : Char) {s t : List Char} : Along s t → Along ('_' :: s) (c :: t)
  /-- A backslash makes the character behind it take itself. -/
  | escape (c : Char) {s t : List Char} : Along s t → Along ('\\' :: c :: s) (c :: t)
  /-- A backslash at the end takes nothing. -/
  | lone : Along ['\\'] []
  /-- Every other character takes itself. -/
  | plain {c : Char} {s t : List Char} :
    c ∉ ['%', '_', '\\'] → Along s t → Along (c :: s) (c :: t)

section Along

variable {c : Char} {s t : List Char}

theorem along_nil : Along [] t ↔ t = [] := by
  constructor
  · rintro ⟨⟩
    rfl
  · rintro rfl
    exact .nil

theorem along_lone : Along ['\\'] t ↔ t = [] := by
  constructor
  · intro h
    cases h with
    | lone => rfl
    | plain hc => exact absurd hc (by decide)
  · rintro rfl
    exact .lone

theorem along_run : Along ('%' :: s) t ↔ ∃ u, u <:+ t ∧ Along s u := by
  constructor
  · intro h
    cases h with
    | run taken h => exact ⟨_, List.suffix_append _ _, h⟩
    | plain hc => exact absurd hc (by decide)
  · rintro ⟨u, ⟨taken, rfl⟩, h⟩
    exact .run taken h

theorem along_one : Along ('_' :: s) t ↔ ∃ c u, t = c :: u ∧ Along s u := by
  constructor
  · intro h
    cases h with
    | one c h => exact ⟨c, _, rfl, h⟩
    | plain hc => exact absurd hc (by decide)
  · rintro ⟨c, u, rfl, h⟩
    exact .one c h

theorem along_escape : Along ('\\' :: c :: s) t ↔ ∃ u, t = c :: u ∧ Along s u := by
  constructor
  · intro h
    cases h with
    | escape _ h => exact ⟨_, rfl, h⟩
    | plain hc => exact absurd hc (by decide)
  · rintro ⟨u, rfl, h⟩
    exact .escape c h

theorem along_plain (hc : c ∉ ['%', '_', '\\']) :
    Along (c :: s) t ↔ ∃ u, t = c :: u ∧ Along s u := by
  constructor
  · intro h
    cases h with
    | plain _ h => exact ⟨_, rfl, h⟩
    | _ => exact absurd hc (by decide)
  · rintro ⟨u, rfl, h⟩
    exact .plain hc h

end Along

/-! ## Rows -/

/-- A row of truth values that tells, of each end of a text from the text itself to the empty one,
    whether it has a property. -/
inductive Tells (P : List Char → Prop) : List Bool → List Char → Prop
  | nil {b : Bool} : (b = true ↔ P []) → Tells P [b] []
  | cons {b : Bool} {c : Char} {bs : List Bool} {s : List Char} :
    (b = true ↔ P (c :: s)) → Tells P bs s → Tells P (b :: bs) (c :: s)

namespace Tells

variable {P Q : List Char → Prop} {bs : List Bool} {s : List Char}

theorem congr (hPQ : ∀ t, P t ↔ Q t) (h : Tells P bs s) : Tells Q bs s := by
  induction h with
  | nil hb => exact .nil (hb.trans (hPQ _))
  | cons hb _ ih => exact .cons (hb.trans (hPQ _)) ih

/-- A row begins with what it tells of the text itself. -/
theorem exists_head (h : Tells P bs s) : ∃ b bs', bs = b :: bs' ∧ (b = true ↔ P s) := by
  cases h with
  | nil hb => exact ⟨_, _, rfl, hb⟩
  | cons hb _ => exact ⟨_, _, rfl, hb⟩

/-- The row of the empty pattern tells which end is empty. -/
theorem empty (s : List Char) : Tells (· = []) (Pattern.row s []) s := by
  induction s with
  | nil => exact .nil (by simp)
  | cons c s ih => exact .cons (by simp) ih

/-- The row of a run tells of which ends an end has the property. -/
theorem run (h : Tells P bs s) : Tells (fun t => ∃ u, u <:+ t ∧ P u) (Item.run.row s bs) s := by
  show Tells _ (anyFrom bs) s
  induction h with
  | nil hb => exact .nil (by simpa [List.suffix_nil] using hb)
  | @cons b c bs s hb _ ih =>
    obtain ⟨r, rs, hrow, hr⟩ := ih.exists_head
    rw [anyFrom, hrow]
    refine .cons ?_ (hrow ▸ ih)
    simp only [Bool.or_eq_true, hb, hr, List.suffix_cons_iff, or_and_right, exists_or,
      exists_eq_left]

/-- The row of one character tells behind which character an end has the property. -/
theorem one (h : Tells P bs s) :
    Tells (fun t => ∃ c u, t = c :: u ∧ P u) (Item.one.row s bs) s := by
  show Tells _ (bs.drop 1 ++ [false]) s
  induction h with
  | nil => exact .nil (by simp)
  | @cons b c bs s _ h ih =>
    obtain ⟨r, rs, rfl, hr⟩ := h.exists_head
    exact .cons (by simp [hr, and_assoc]) ih

/-- The row of a given character tells behind which of its places an end has the property. -/
theorem char (x : Char) (h : Tells P bs s) :
    Tells (fun t => ∃ u, t = x :: u ∧ P u) ((Item.char x).row s bs) s := by
  show Tells _ (List.zipWith (fun c b => c == x && b) s (bs.drop 1) ++ [false]) s
  induction h with
  | nil => exact .nil (by simp)
  | @cons b c bs s _ h ih =>
    obtain ⟨r, rs, rfl, hr⟩ := h.exists_head
    exact .cons (by simp [hr, and_assoc]) ih

end Tells

/-- The row of a pattern tells which ends of a text can be cut along the pattern. -/
theorem tells_row (s t : List Char) : Tells (Along s) (Pattern.row t (Pattern.ofChars s)) t := by
  fun_induction Pattern.ofChars s with
  | case1 => exact (Tells.empty t).congr fun _ => along_nil.symm
  | case2 => exact (Tells.empty t).congr fun _ => along_lone.symm
  | case3 c s ih => exact (ih.char c).congr fun _ => along_escape.symm
  | case4 c s hlone hescape ih =>
    -- The backslash has been dealt with: alone it is the first of the two excluded forms, and in
    -- front of a character the second.
    have hc : c ≠ '\\' := by
      rintro rfl
      cases s with
      | nil => exact hlone rfl rfl
      | cons d s => exact hescape d s rfl rfl
    split
    · rename_i hrun
      subst hrun
      exact ih.run.congr fun _ => along_run.symm
    split
    · rename_i hone
      subst hone
      exact ih.one.congr fun _ => along_one.symm
    · rename_i hrun hone
      exact (ih.char c).congr fun _ => (along_plain (by simp [hrun, hone, hc])).symm

/-- A pattern accepts the texts that can be cut along it. -/
theorem accepts_ofChars (s t : List Char) : (Pattern.ofChars s).accepts t = true ↔ Along s t := by
  obtain ⟨b, bs, hrow, hb⟩ := (tells_row s t).exists_head
  rw [Pattern.accepts, hrow]
  exact hb

end Like

open Like (Along Pattern)

/-- A pattern that can be read accepts the texts that can be cut along it, and a comparison with it
    holds on the rows whose value has such a text. -/
theorem like_iff_along {s : String} {p : Pattern} (h : Pattern.read? s.toList = some p) :
    (∀ t, p.accepts t = true ↔ Along s.toList t) ∧
      ∀ column row,
        (Matcher.ofPredicate (.compare ⟨column, .like, .scalar (.text s)⟩)).accepts row = true ↔
          ∃ t, (row.value column).bare? = some t ∧ Along s.toList t := by
  have hp : p = Pattern.ofChars s.toList := by
    rw [Pattern.read?, Option.ite_none_right_eq_some] at h
    exact (Option.some.inj h.2).symm
  have haccepts : ∀ t, p.accepts t = true ↔ Along s.toList t := by
    rw [hp]
    exact Like.accepts_ofChars s.toList
  refine ⟨haccepts, fun column row => ?_⟩
  rw [Matcher.accepts_eq_holds, Predicate.holds, Predicate.eval]
  simp only [Comparison.eval, Comparison.evalOr, matchValue]
  cases (row.value column).bare? with
  | none => simp
  | some t => simp [h, haccepts]

/-- A run takes a line break and a percent sign, an escaped percent sign only itself, an underscore
    a character of two bytes, and the last backslash nothing. -/
theorem like_iff_along_escapes :
    ∃ p, Pattern.read? "ab%\\%_\\".toList = some p ∧ p.accepts "ab\n%%é".toList = true ∧
      ¬ Along "ab%\\%_\\".toList "ab%".toList := by
  have hread : Pattern.read? "ab%\\%_\\".toList =
      some [.char 'a', .char 'b', .run, .char '%', .one] := by
    decide
  obtain ⟨haccepts, -⟩ := like_iff_along hread
  have halong : Along "ab%\\%_\\".toList "ab\n%%é".toList :=
    .plain (by decide) (.plain (by decide) (.run ['\n', '%'] (.escape '%' (.one 'é' .lone))))
  exact ⟨_, hread, (haccepts _).2 halong, mt (haccepts _).2 (by decide)⟩

end RowQuery
