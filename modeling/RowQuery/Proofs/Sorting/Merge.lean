import RowQuery.Sorting.Merge

/-!
# Insertion and merging keep the items

Whatever `less` is — it need be no order — insertion and merging lose and repeat nothing: if there
is a result, it is a permutation of the items. For a merge from both ends this rests on the check
that the two ends meet. What they have taken then makes up the whole, but for the item in the middle
of a list of odd length.

* `insertAll_perm`, `insertion_perm`: insertion;
* `takeFront_perm`, `takeBack_perm`: what the ends of a merge are made of;
* `mergeEnds?_perm`, `merge_perm`: merges;
* `sortShort?_perm`: short lists.
-/

namespace RowQuery.Sorting

variable {α : Type} (less : α → α → Bool)

/-- Whatever comes of a list is a permutation of it. -/
def Permutes (sort? : List α → Option (List α)) : Prop :=
  ∀ ⦃items out⦄, sort? items = some out → out.Perm items

/-! ## Insertion -/

theorem insertReversed_perm (a : α) (bs : List α) :
    (insertReversed less a bs).Perm (a :: bs) := by
  induction bs with
  | nil => exact .refl _
  | cons b bs ih =>
    rw [insertReversed]
    split
    · exact (ih.cons b).trans (.swap a b bs)
    · exact .refl _

theorem insertAll_perm (sorted items : List α) :
    (insertAll less sorted items).Perm (sorted ++ items) := by
  have hfold : ∀ done : List α,
      (items.foldl (fun done a => insertReversed less a done) done).Perm (done ++ items) := by
    induction items with
    | nil => exact fun done => .of_eq (List.append_nil done).symm
    | cons a items ih =>
      intro done
      have hinsert := (insertReversed_perm less a done).append_right items
      exact (ih _).trans (hinsert.trans List.perm_middle.symm)
  rw [insertAll]
  exact (List.reverse_perm _).trans ((hfold _).trans ((List.reverse_perm _).append_right _))

theorem insertion_perm (items : List α) : (insertion less items).Perm items :=
  insertAll_perm less [] items

/-! ## Merging -/

theorem mergeForward_perm (left right : List α) :
    (mergeForward less left right).Perm (left ++ right) :=
  List.merge_perm_append _

theorem merge_perm (left right : List α) : (merge less left right).Perm (left ++ right) := by
  rw [merge]
  split
  · exact mergeForward_perm less left right
  · refine (List.reverse_perm _).trans ((List.merge_perm_append _).trans ?_)
    exact (List.reverse_perm left).append (List.reverse_perm right)

/-- The first items of a merge are the first ones of both lists, as many as are said to come from
    the left, and the others from the right. -/
theorem takeFront_perm {n : Nat} {left right : List α} (hl : n ≤ left.length)
    (hr : n ≤ right.length) :
    (takeFront less n left right).2 ≤ n ∧
      (takeFront less n left right).1.Perm (left.take (takeFront less n left right).2 ++
        right.take (n - (takeFront less n left right).2)) := by
  -- One item comes off one of the lists, and the rest are as many fewer.
  induction n generalizing left right with
  | zero => simp [takeFront]
  | succ n ih =>
    cases left with
    | nil => cases hl
    | cons a left =>
      cases right with
      | nil => cases hr
      | cons b right =>
        rw [takeFront]
        simp only [List.length_cons, Nat.add_le_add_iff_right] at hl hr
        split
        · obtain ⟨hle, hperm⟩ := @ih (a :: left) right (Nat.le_succ_of_le hl) hr
          generalize takeFront less n (a :: left) right = r at hle hperm ⊢
          refine ⟨Nat.le_succ_of_le hle, ?_⟩
          rw [Nat.succ_sub hle, List.take_succ_cons]
          exact (hperm.cons b).trans List.perm_middle.symm
        · obtain ⟨hle, hperm⟩ := @ih left (b :: right) hl (Nat.le_succ_of_le hr)
          generalize takeFront less n left (b :: right) = r at hle hperm ⊢
          refine ⟨Nat.succ_le_succ hle, ?_⟩
          rw [Nat.succ_sub_succ, List.take_succ_cons]
          exact hperm.cons a

/-- From the back a merge is as from the front, by the opposite of `less`. -/
theorem takeBack_eq (n : Nat) (left right : List α) :
    takeBack less n left right = takeFront (fun a b => !less a b) n left right := by
  induction n generalizing left right with
  | zero => rfl
  | succ n ih =>
    cases left with
    | nil => rfl
    | cons a left =>
      cases right with
      | nil => rfl
      | cons b right =>
        rw [takeBack, takeFront, ih, ih]
        cases less b a <;> rfl

theorem takeBack_perm {n : Nat} {left right : List α} (hl : n ≤ left.length)
    (hr : n ≤ right.length) :
    (takeBack less n left right).2 ≤ n ∧
      (takeBack less n left right).1.Perm (left.take (takeBack less n left right).2 ++
        right.take (n - (takeBack less n left right).2)) := by
  rw [takeBack_eq]
  exact takeFront_perm _ hl hr

/-- Parts of two lists may be collected in any order. -/
theorem perm_of_parts (a b m n c d : List α) :
    (a ++ b ++ (m ++ n) ++ (c ++ d)).Perm ((a ++ m ++ c) ++ (b ++ n ++ d)) := by
  classical
  rw [List.perm_iff_count]
  intro x
  simp only [List.count_append]
  omega

/-- The ends of two lists, and what is left between them, make up the lists. -/
theorem perm_of_ends {left right front back : List α} {f g i j k l : Nat}
    (hfront : front.Perm (left.take f ++ right.take g))
    (hback : back.Perm (left.reverse.take k ++ right.reverse.take l))
    (hleft : left.length = f + i + k) (hright : right.length = g + j + l) :
    (front ++ ((left.drop f).take i ++ (right.drop g).take j) ++ back.reverse).Perm
      (left ++ right) := by
  have hparts : ∀ {xs : List α} {p m q : Nat}, xs.length = p + m + q →
      xs.take p ++ (xs.drop p).take m ++ (xs.reverse.take q).reverse = xs := by
    intro xs p m q h
    have hlength : xs.length - q = p + m := by omega
    rw [List.take_reverse, List.reverse_reverse, hlength, List.append_assoc, ← List.drop_drop,
      List.take_append_drop, List.take_append_drop]
  have hback' : back.reverse.Perm
      ((left.reverse.take k).reverse ++ (right.reverse.take l).reverse) :=
    (List.reverse_perm back).trans (hback.trans
      ((List.reverse_perm _).symm.append (List.reverse_perm _).symm))
  refine ((hfront.append_right _).append hback').trans ((perm_of_parts ..).trans ?_)
  rw [hparts hleft, hparts hright]

theorem mergeEnds?_perm : Permutes (mergeEnds? less) := by
  intro items out h
  rw [mergeEnds?] at h
  have hsplit : items.take (items.length / 2) ++ items.drop (items.length / 2) = items :=
    List.take_append_drop ..
  have hleft : (items.take (items.length / 2)).length = items.length / 2 := by
    rw [List.length_take]
    omega
  have hright : (items.drop (items.length / 2)).length =
      items.length / 2 + items.length % 2 := by
    rw [List.length_drop]
    omega
  have hodd : items.length % 2 < 2 := Nat.mod_lt _ (by decide)
  generalize items.take (items.length / 2) = left at h hsplit hleft
  generalize items.drop (items.length / 2) = right at h hsplit hright
  generalize items.length / 2 = half at h hleft hright
  generalize items.length % 2 = odd at h hright hodd
  have hl : half ≤ left.length := by omega
  have hr : half ≤ right.length := by omega
  obtain ⟨hfirst, hfront⟩ := takeFront_perm less hl hr
  rw [← List.length_reverse] at hl hr
  obtain ⟨hlast, hback⟩ := takeBack_perm less hl hr
  generalize takeFront less half left right = fronts at h hfirst hfront
  generalize takeBack less half left.reverse right.reverse = backs at h hlast hback
  obtain ⟨front, first⟩ := fronts
  obtain ⟨back, last⟩ := backs
  simp only at h hfirst hfront hlast hback
  rw [← hsplit]
  split at h
  · rename_i hmeet
    rw [← Option.some.inj h]
    -- The middle is on the left, on the right, or empty, as the ends have met.
    by_cases hmiddle : odd = 0
    · have := perm_of_ends (i := 0) (j := 0) hfront hback (by omega) (by omega)
      rw [if_pos hmiddle]
      simpa using this
    · rw [if_neg hmiddle]
      by_cases hside : first + last < half
      · have := perm_of_ends (i := 1) (j := 0) hfront hback (by omega) (by omega)
        rw [if_pos hside]
        simpa using this
      · have := perm_of_ends (i := 0) (j := 1) hfront hback (by omega) (by omega)
        rw [if_neg hside]
        simpa using this
  · cases h

/-! ## Short lists -/

theorem sortFour_perm (a b c d : α) : (sortFour less a b c d).Perm [a, b, c, d] := by
  -- Every outcome of the comparisons names each of the four items once.
  classical
  rw [List.perm_iff_count]
  intro x
  rw [sortFour]
  cases less b a <;> cases less d c <;> simp only [Bool.false_eq_true, if_false, if_true]
  all_goals
    repeat' split
    all_goals simp only [List.count_cons, List.count_nil]
    all_goals omega

/-- A list is made of the first items of another, as many as it has. -/
def MadeOfFirst (start items : List α) : Prop :=
  start.Perm (items.take start.length)

variable {less}

theorem MadeOfFirst.perm {start items : List α} (h : MadeOfFirst start items) :
    (start ++ items.drop start.length).Perm items :=
  (h.append_right _).trans (.of_eq (List.take_append_drop ..))

theorem madeOfFirst_take (n : Nat) (items : List α) : MadeOfFirst (items.take n) items := by
  rw [MadeOfFirst, List.length_take, ← List.take_eq_take_min]

theorem madeOfFirst_firstFour (items : List α) : MadeOfFirst (firstFour less items) items := by
  rw [firstFour.eq_def]
  split
  · rename_i a b c d rest
    have hperm := sortFour_perm less a b c d
    rw [MadeOfFirst, hperm.length_eq]
    exact hperm
  · exact madeOfFirst_take 1 items

/-- Unless there are four items to begin with, there are none behind them. -/
theorem length_firstFour (items : List α) :
    (firstFour less items).length = 4 ∨ items.drop 4 = [] := by
  rcases items with _ | ⟨a, _ | ⟨b, _ | ⟨c, _ | ⟨d, rest⟩⟩⟩⟩
  · exact .inr rfl
  · exact .inr rfl
  · exact .inr rfl
  · exact .inr rfl
  · exact .inl (sortFour_perm less a b c d).length_eq

theorem madeOfFirst_sortStart? {whole : Nat} {items start : List α}
    (h : sortStart? less whole items = some start) : MadeOfFirst start items := by
  rw [sortStart?] at h
  split at h
  · have hmerge := mergeEnds?_perm less h
    rw [MadeOfFirst, hmerge.length_eq, List.length_append, List.take_add]
    refine hmerge.trans ((madeOfFirst_firstFour items).append ?_)
    rcases @length_firstFour α less items with hlength | hnil
    · rw [hlength]
      exact madeOfFirst_firstFour _
    · rw [hnil]
      exact .refl []
  · split at h
    · rw [← Option.some.inj h]
      exact madeOfFirst_firstFour items
    · rw [← Option.some.inj h]
      exact madeOfFirst_take 1 items

theorem sortHalf?_perm (less : α → α → Bool) (whole : Nat) : Permutes (sortHalf? less whole) := by
  intro half out h
  obtain ⟨start, hstart, h⟩ := Option.bind_eq_some_iff.1 h
  rw [← Option.some.inj h]
  exact (insertAll_perm less start _).trans (madeOfFirst_sortStart? hstart).perm

theorem sortShort?_perm (less : α → α → Bool) : Permutes (sortShort? less) := by
  intro items out h
  rw [sortShort?] at h
  split at h
  · rw [← Option.some.inj h]
  · obtain ⟨left, hleft, h⟩ := Option.bind_eq_some_iff.1 h
    obtain ⟨right, hright, h⟩ := Option.bind_eq_some_iff.1 h
    have hmerge := mergeEnds?_perm less h
    have hhalves := (sortHalf?_perm less _ hleft).append (sortHalf?_perm less _ hright)
    rw [List.take_append_drop] at hhalves
    exact hmerge.trans hhalves

end RowQuery.Sorting
