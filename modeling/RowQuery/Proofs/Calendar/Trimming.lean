import Mathlib.Data.List.DropRight
import RowQuery.Calendar.Reading

/-!
# Days and times among white space

White space at the ends of a text is no hindrance to a day or a time: a text that is read as one is
read as one, too, once it has been trimmed. In front of a text the readers pass over white space
themselves, and they leave none behind, for the last that they take is a digit or the mark of an
offset.

* `Text.trim_eq_trimStart`: a text that ends visibly is only trimmed in front;
* `Takes`: what the parts of a reader leave of a text;
* `readDate?_trim`, `isSome_readDateTime?_trim`: a text is read if it is trimmed.
-/

namespace RowQuery

namespace Text

variable {s r : List Char}

/-- A text that ends in a character other than white space. -/
def EndsVisibly (s : List Char) : Prop :=
  ∃ c, s.getLast? = some c ∧ isSpace c = false

theorem EndsVisibly.of_suffix (h : EndsVisibly r) (hr : r <:+ s) : EndsVisibly s := by
  obtain ⟨c, hc, hspace⟩ := h
  obtain ⟨p, rfl⟩ := hr
  exact ⟨c, by rw [List.getLast?_append, hc, Option.some_or], hspace⟩

/-- A run of digits ends visibly. -/
theorem endsVisibly_of_takeWhile (h : r.takeWhile Char.isDigit = s) (hne : s ≠ []) :
    EndsVisibly s := by
  subst h
  obtain ⟨c, hc⟩ := Option.isSome_iff_exists.1 (List.getLast?_isSome.2 hne)
  have hdigit := List.all_eq_true.1 List.all_takeWhile c (List.mem_of_getLast? hc)
  exact ⟨c, hc, isSpace_of_isDigit hdigit⟩

theorem trimStart_suffix (s : List Char) : trimStart s <:+ s :=
  List.dropWhile_suffix _

theorem trimStart_trimStart (s : List Char) : trimStart (trimStart s) = trimStart s :=
  List.dropWhile_idempotent ..

/-- A text that ends visibly is only trimmed in front. -/
theorem trim_eq_trimStart (h : EndsVisibly s) : trim s = trimStart s := by
  refine List.rdropWhile_eq_self_iff.2 fun hne => ?_
  obtain ⟨c, hc, hspace⟩ := h
  -- What is left in front is the end of the text, if anything is left at all.
  obtain ⟨p, hp⟩ := trimStart_suffix s
  rw [← hp, List.getLast?_append, List.getLast?_eq_some_getLast hne] at hc
  obtain rfl := Option.some.inj hc
  simp [hspace]

end Text

namespace Calendar

open Text (EndsVisibly trim trimStart)

variable {s x r : List Char}

/-- A part of a reader leaves the end of a text. If it takes all of it, then the text ends
    visibly. -/
structure Takes (s r : List Char) : Prop where
  suffix : r <:+ s
  visible : r = [] → EndsVisibly s

theorem Takes.of_suffix (h : Takes x r) (hx : x <:+ s) : Takes s r :=
  ⟨h.suffix.trans hx, fun hr => (h.visible hr).of_suffix hx⟩

/-! ## The parts of the readers -/

theorem takes_takeNumber {least most n : Nat} (hleast : 0 < least)
    (h : takeNumber least most s = some (n, r)) : Takes s r := by
  simp only [takeNumber, Option.ite_none_right_eq_some, Option.some.injEq, Prod.mk.injEq] at h
  obtain ⟨hlength, -, rfl⟩ := h
  refine ⟨List.drop_suffix .., fun hnil => ?_⟩
  have hrun : (s.take most).takeWhile Char.isDigit <+: s :=
    (List.takeWhile_prefix _).trans (List.take_prefix ..)
  have hall := hrun.eq_of_length_le (List.drop_eq_nil_iff.1 hnil)
  rw [hall] at hlength
  exact Text.endsVisibly_of_takeWhile hall (List.ne_nil_of_length_pos (by omega))

theorem takes_takePart {n : Nat} (h : takePart s = some (n, r)) : Takes s r :=
  (takes_takeNumber Nat.one_pos h).of_suffix (Text.trimStart_suffix s)

theorem takes_takeYear {year : Int} (h : takeYear s = some (year, r)) : Takes s r := by
  have hnumber : ∀ {most : Nat} {t : List Char} {f : Nat × List Char → Int × List Char},
      (∀ p, (f p).2 = p.2) → t <:+ trimStart s →
      (takeNumber 1 most t).map f = some (year, r) → Takes s r := by
    intro most t f hf ht h
    obtain ⟨⟨n, r'⟩, hn, h⟩ := Option.map_eq_some_iff.1 h
    obtain rfl : r' = r := (hf _).symm.trans (congrArg Prod.snd h)
    exact (takes_takeNumber Nat.one_pos hn).of_suffix (ht.trans (Text.trimStart_suffix s))
  rw [takeYear] at h
  split at h
  · rename_i hs
    exact hnumber (fun _ => rfl) (hs ▸ List.suffix_cons ..) h
  · rename_i hs
    exact hnumber (fun _ => rfl) (hs ▸ List.suffix_cons ..) h
  · exact hnumber (fun _ => rfl) List.suffix_rfl h

theorem suffix_of_takeChar {c : Char} (h : takeChar c s = some r) : r <:+ s := by
  cases s with
  | nil => cases h
  | cons x s =>
    obtain ⟨-, h⟩ := Option.ite_none_right_eq_some.1 h
    cases h
    exact List.suffix_cons ..

theorem suffix_of_takeMark (h : takeMark s = some r) : r <:+ s := by
  unfold takeMark at h
  split at h
  all_goals
    cases h
    try exact List.suffix_cons ..

/-- A fraction leaves all of a text or takes a digit at least. -/
theorem takeFraction_takes {nano : Nat} (h : takeFraction s = some (nano, r)) :
    r = s ∨ Takes s r := by
  unfold takeFraction at h
  split at h
  · rename_i t
    obtain ⟨hne, h⟩ := Option.ite_none_left_eq_some.1 h
    cases h
    right
    refine ⟨(List.drop_suffix ..).trans (List.suffix_cons ..), fun hnil => ?_⟩
    have hall := (List.takeWhile_prefix Char.isDigit (l := t)).eq_of_length_le
      (List.drop_eq_nil_iff.1 hnil)
    rw [hall] at hne
    exact (Text.endsVisibly_of_takeWhile hall hne).of_suffix (List.suffix_cons ..)
  · cases h
    exact .inl rfl

/-- A day takes a digit last. -/
theorem takes_takeDate {d : Date} (h : takeDate s = some (d, r)) : Takes s r := by
  simp only [takeDate, Option.bind_eq_bind, Option.bind_eq_some_iff, Prod.exists] at h
  obtain ⟨_, t, hyear, t', hchar, _, u, hmonth, u', hchar', _, v, hday, h⟩ := h
  obtain ⟨_, -, h⟩ := h
  cases h
  refine (takes_takePart hday).of_suffix ?_
  exact (suffix_of_takeChar hchar').trans ((takes_takePart hmonth).suffix.trans
    ((suffix_of_takeChar hchar).trans (takes_takeYear hyear).suffix))

/-! ## The readers -/

theorem endsVisibly_of_readOffset? {m : Int} (h : readOffset? s = some m) : EndsVisibly s := by
  unfold readOffset? at h
  split at h
  · exact ⟨'Z', rfl, by decide⟩
  · exact ⟨'z', rfl, by decide⟩
  · simp only [Option.bind_eq_bind, Option.bind_eq_some_iff, Prod.exists] at h
    obtain ⟨_, t, hhours, u, hchar, _, rest, hminutes, h⟩ := h
    obtain ⟨⟨rfl, -, -⟩, -⟩ := Option.ite_none_right_eq_some.1 h
    refine ((takes_takeNumber Nat.two_pos hminutes).visible rfl).of_suffix ?_
    exact (suffix_of_takeChar hchar).trans
      ((takes_takeNumber Nat.two_pos hhours).suffix.trans (List.suffix_cons ..))
  · cases h

theorem endsVisibly_of_readDate? {d : Date} (h : readDate? s = some d) : EndsVisibly s := by
  simp only [readDate?, Option.bind_eq_bind, Option.bind_eq_some_iff, Prod.exists] at h
  obtain ⟨_, rest, hdate, h⟩ := h
  obtain ⟨rfl, -⟩ := Option.ite_none_right_eq_some.1 h
  exact (takes_takeDate hdate).visible rfl

theorem endsVisibly_of_readRelaxed? {between : List Char → Option (List Char)} {t : DateTime}
    (hbetween : ∀ {s r}, between s = some r → r <:+ s) (h : readRelaxed? between s = some t) :
    EndsVisibly s := by
  simp only [readRelaxed?, Option.bind_eq_bind, Option.bind_eq_some_iff, Prod.exists] at h
  obtain ⟨_, s₁, hdate, s₂, hmark, _, s₃, hhour, s₄, hchar, _, s₅, hminute, h⟩ := h
  obtain ⟨s₆, hchar', _, s₇, hsecond, _, rest, hfraction, h⟩ := h
  obtain ⟨rfl, -⟩ := Option.ite_none_right_eq_some.1 h
  have hclock : EndsVisibly s₆ := by
    rcases takeFraction_takes hfraction with hnone | htaken
    · exact (takes_takePart hsecond).visible hnone.symm
    · exact (htaken.visible rfl).of_suffix (takes_takePart hsecond).suffix
  refine hclock.of_suffix ((suffix_of_takeChar hchar').trans ?_)
  refine (takes_takePart hminute).suffix.trans ((suffix_of_takeChar hchar).trans ?_)
  exact (takes_takePart hhour).suffix.trans ((hbetween hmark).trans (takes_takeDate hdate).suffix)

theorem endsVisibly_of_readToMinute? {t : DateTime} (h : readToMinute? s = some t) :
    EndsVisibly s := by
  simp only [readToMinute?, Option.bind_eq_bind, Option.bind_eq_some_iff, Prod.exists] at h
  obtain ⟨_, s₁, hdate, s₂, hmark, _, s₃, hhour, s₄, hchar, _, rest, hminute, h⟩ := h
  obtain ⟨rfl, -⟩ := Option.ite_none_right_eq_some.1 h
  refine ((takes_takePart hminute).visible rfl).of_suffix ((suffix_of_takeChar hchar).trans ?_)
  exact (takes_takePart hhour).suffix.trans
    ((suffix_of_takeChar hmark).trans (takes_takeDate hdate).suffix)

theorem trimStart_of_takeNumber {least most n : Nat} (hleast : 0 < least)
    (h : takeNumber least most s = some (n, r)) : trimStart s = s := by
  simp only [takeNumber, Option.ite_none_right_eq_some] at h
  obtain ⟨hlength, -⟩ := h
  cases s with
  | nil => rfl
  | cons c s =>
    cases most with
    | zero => exact absurd (Nat.lt_of_lt_of_le hleast hlength) (Nat.lt_irrefl 0)
    | succ most =>
      by_cases hc : c.isDigit = true
      · exact Text.trimStart_cons (Text.isSpace_of_isDigit hc) s
      · rw [List.take_succ_cons, List.takeWhile_cons_of_neg hc] at hlength
        exact absurd (Nat.lt_of_lt_of_le hleast hlength) (Nat.lt_irrefl 0)

theorem trimStart_of_readStrict? {t : DateTime} (h : readStrict? s = some t) :
    trimStart s = s := by
  obtain ⟨⟨_, r⟩, hyear, -⟩ := Option.bind_eq_some_iff.1 h
  exact trimStart_of_takeNumber (Nat.zero_lt_succ 3) hyear

theorem endsVisibly_of_readStrict? {t : DateTime} (h : readStrict? s = some t) :
    EndsVisibly s := by
  -- A `simp` that takes all the parts apart at once would run for long.
  rw [readStrict?] at h
  obtain ⟨⟨_, s₁⟩, hyear, h⟩ := Option.bind_eq_some_iff.1 h
  obtain ⟨s₂, hchar, h⟩ := Option.bind_eq_some_iff.1 h
  obtain ⟨⟨_, s₃⟩, hmonth, h⟩ := Option.bind_eq_some_iff.1 h
  obtain ⟨s₄, hchar', h⟩ := Option.bind_eq_some_iff.1 h
  obtain ⟨⟨_, s₅⟩, hday, h⟩ := Option.bind_eq_some_iff.1 h
  obtain ⟨s₆, hmark, h⟩ := Option.bind_eq_some_iff.1 h
  obtain ⟨⟨_, s₇⟩, hhour, h⟩ := Option.bind_eq_some_iff.1 h
  obtain ⟨s₈, hcolon, h⟩ := Option.bind_eq_some_iff.1 h
  obtain ⟨⟨_, s₉⟩, hminute, h⟩ := Option.bind_eq_some_iff.1 h
  obtain ⟨s₁₀, hcolon', h⟩ := Option.bind_eq_some_iff.1 h
  obtain ⟨⟨_, s₁₁⟩, hsecond, h⟩ := Option.bind_eq_some_iff.1 h
  obtain ⟨⟨_, s₁₂⟩, hfraction, h⟩ := Option.bind_eq_some_iff.1 h
  obtain ⟨_, hoffset, -⟩ := Option.bind_eq_some_iff.1 h
  have hnumber : ∀ {n : Nat} {s r : List Char}, takeNumber 2 2 s = some (n, r) → r <:+ s :=
    fun h => (takes_takeNumber Nat.two_pos h).suffix
  have hrest : s₁₂ <:+ s₁₁ := by
    rcases takeFraction_takes hfraction with rfl | htaken
    · exact List.suffix_rfl
    · exact htaken.suffix
  have hclock : s₁₁ <:+ s₆ := (hnumber hsecond).trans ((suffix_of_takeChar hcolon').trans
    ((hnumber hminute).trans ((suffix_of_takeChar hcolon).trans (hnumber hhour))))
  have hdate : s₆ <:+ s₁ := (suffix_of_takeMark hmark).trans ((hnumber hday).trans
    ((suffix_of_takeChar hchar').trans ((hnumber hmonth).trans (suffix_of_takeChar hchar))))
  have hfour := takes_takeNumber (Nat.zero_lt_succ 3) hyear
  exact (endsVisibly_of_readOffset? hoffset).of_suffix
    (hrest.trans (hclock.trans (hdate.trans hfour.suffix)))

/-! ## Trimmed texts -/

theorem takeDate_trimStart (s : List Char) : takeDate (trimStart s) = takeDate s := by
  rw [takeDate, takeYear, Text.trimStart_trimStart]
  rfl

theorem readDate?_trimStart (s : List Char) : readDate? (trimStart s) = readDate? s := by
  rw [readDate?, takeDate_trimStart]
  rfl

theorem readRelaxed?_trimStart (between : List Char → Option (List Char)) (s : List Char) :
    readRelaxed? between (trimStart s) = readRelaxed? between s := by
  rw [readRelaxed?, takeDate_trimStart]
  rfl

theorem readToMinute?_trimStart (s : List Char) : readToMinute? (trimStart s) = readToMinute? s := by
  rw [readToMinute?, takeDate_trimStart]
  rfl

/-- A text that is read as a day is read as the same day once it is trimmed. -/
theorem readDate?_trim {d : Date} (h : readDate? s = some d) : readDate? (trim s) = some d := by
  rw [Text.trim_eq_trimStart (endsVisibly_of_readDate? h), readDate?_trimStart, h]

/-- A text that is read as a time is one once it is trimmed. -/
theorem isSome_readDateTime?_trim (h : (readDateTime? s).isSome = true) :
    (readDateTime? (trim s)).isSome = true := by
  obtain ⟨t, ht⟩ := Option.isSome_iff_exists.1 h
  simp only [readDateTime?, Option.orElse_eq_orElse, Option.orElse_eq_or, Option.or_eq_some_iff,
    Option.isSome_or, Bool.or_eq_true] at ht ⊢
  -- Trimmed in front, a text may be read in an earlier form, but it is read.
  rcases ht with ht | ⟨-, ht | ⟨-, ht | ⟨-, ht | ⟨-, ht⟩⟩⟩⟩
  · rw [Text.trim_eq_trimStart (endsVisibly_of_readStrict? ht), trimStart_of_readStrict? ht, ht]
    exact .inl rfl
  · rw [Text.trim_eq_trimStart (endsVisibly_of_readRelaxed? suffix_of_takeChar ht),
      readRelaxed?_trimStart (takeChar 'T'), ht]
    exact .inr (.inl rfl)
  · have hend := endsVisibly_of_readRelaxed?
      (fun hr => Option.some.inj hr ▸ Text.trimStart_suffix _) ht
    rw [Text.trim_eq_trimStart hend, readRelaxed?_trimStart fun r => some (trimStart r), ht]
    exact .inr (.inr (.inl rfl))
  · rw [Text.trim_eq_trimStart (endsVisibly_of_readToMinute? ht), readToMinute?_trimStart, ht]
    exact .inr (.inr (.inr (.inl rfl)))
  · obtain ⟨d, hd, rfl⟩ := Option.map_eq_some_iff.1 ht
    rw [readDate?_trim hd]
    exact .inr (.inr (.inr (.inr rfl)))

end Calendar

end RowQuery
