import RowQuery.Proofs.Filter.Literals

/-!
# Lists and the texts they are cut from

The value of a clause is read as a list by some operators and as one text by the others. Both
readers take the escapes out, each in a loop of its own, and they agree: a list is the text cut at
its open commas. An escape takes two characters, and escapes are taken from the left, so that of a
run of backslashes every second one is covered by the one before it. A comma is *open* if the
backslashes directly in front of it are even in number, for then none is left to cover it.

* `joinText_splitList`: the items of a list, joined by commas, are the text without its escapes;
* `openCommas_append`: what is in front of a text covers none of its commas, unless it ends in an
  odd number of backslashes;
* `length_splitList`: a list has one item more than its text has open commas;
* `splitList_agrees`: both, and that texts joined to a list are its items again.
-/

namespace RowQuery.Literal

variable {separator item : List Char} {items : List (List Char)}

/-! ## Items -/

theorem joinText_cons (h : items ≠ []) :
    joinText separator (item :: items) = item ++ separator ++ joinText separator items := by
  obtain ⟨item', items, rfl⟩ := List.exists_cons_of_ne_nil h
  rfl

theorem joinText_consItem (c : Char) (h : items ≠ []) :
    joinText separator (consItem c items) = c :: joinText separator items := by
  obtain ⟨item, items, rfl⟩ := List.exists_cons_of_ne_nil h
  cases items <;> rfl

theorem length_consItem (c : Char) (h : items ≠ []) :
    (consItem c items).length = items.length := by
  obtain ⟨item, items, rfl⟩ := List.exists_cons_of_ne_nil h
  rfl

/-- The items of a list, joined by commas, are the text without its escapes. -/
theorem joinText_splitList (s : List Char) : joinText [','] (splitList s) = unescape s := by
  fun_induction splitList s with
  | case1 => rfl
  | case2 => rfl
  | case3 c s ih => rw [joinText_consItem c (splitList_ne_nil s), ih, unescape]
  | case4 s _ _ ih =>
    rw [joinText_cons (splitList_ne_nil s), ih, unescape_plain (by decide)]
    rfl
  | case5 c s hlone hescape _ ih =>
    rw [joinText_consItem c (splitList_ne_nil s), ih, unescape.eq_4 c s hlone hescape]

/-! ## Open commas -/

/-- How many backslashes stand directly in front of the `i`-th character. -/
def backslashesBefore (s : List Char) (i : Nat) : Nat :=
  ((s.take i).reverse.takeWhile (· = '\\')).length

/-- Whether the `i`-th character is a comma that no backslash covers. -/
def isOpenComma (s : List Char) (i : Nat) : Bool :=
  s[i]? = some ',' && backslashesBefore s i % 2 = 0

/-- How many commas of a text no backslash covers. -/
def openCommas (s : List Char) : Nat :=
  (List.range s.length).countP (isOpenComma s)

variable {front s : List Char}

/-- The backslashes in front of a character are those that stand there in its own text. Only if
    nothing else does, those at the end of what is in front of the text count as well. -/
theorem backslashesBefore_append (heven : (front.reverse.takeWhile (· = '\\')).length % 2 = 0)
    (s : List Char) (i : Nat) :
    backslashesBefore (front ++ s) (front.length + i) % 2 = backslashesBefore s i % 2 := by
  rw [backslashesBefore, List.take_length_add_append, List.reverse_append, List.takeWhile_append]
  split
  · rename_i hall
    rw [List.length_append, ← hall, backslashesBefore]
    omega
  · rfl

theorem isOpenComma_append (heven : (front.reverse.takeWhile (· = '\\')).length % 2 = 0)
    (s : List Char) (i : Nat) :
    isOpenComma (front ++ s) (front.length + i) = isOpenComma s i := by
  rw [isOpenComma, isOpenComma, backslashesBefore_append heven,
    List.getElem?_append_right (Nat.le_add_right _ _), Nat.add_sub_cancel_left]

/-- What is in front of a text covers none of its commas, unless it ends in an odd number of
    backslashes. -/
theorem openCommas_append (front s : List Char)
    (heven : (front.reverse.takeWhile (· = '\\')).length % 2 = 0) : openCommas (front ++ s) =
      (List.range front.length).countP (isOpenComma (front ++ s)) + openCommas s := by
  have hrest : (isOpenComma (front ++ s) ∘ fun i => front.length + i) = isOpenComma s :=
    funext (isOpenComma_append heven s)
  rw [openCommas, List.length_append, List.range_add, List.countP_append, List.countP_map, hrest,
    openCommas]

/-- An escape has no open comma, and leaves those behind it open. -/
theorem openCommas_escape (c : Char) (s : List Char) :
    openCommas ('\\' :: c :: s) = openCommas s := by
  have heven : (['\\', c].reverse.takeWhile (· = '\\')).length % 2 = 0 := by
    by_cases hc : c = '\\' <;> simp [hc]
  refine (openCommas_append ['\\', c] s heven).trans ?_
  simp [List.range_succ, isOpenComma, backslashesBefore]

theorem openCommas_plain {c : Char} (hc : c ≠ '\\') (s : List Char) :
    openCommas (c :: s) = (if c = ',' then 1 else 0) + openCommas s := by
  have heven : ([c].reverse.takeWhile (· = '\\')).length % 2 = 0 := by simp [hc]
  refine (openCommas_append [c] s heven).trans ?_
  simp [List.range_succ, isOpenComma, backslashesBefore, List.countP_cons]

/-- A list has one item more than its text has open commas. -/
theorem length_splitList (s : List Char) : (splitList s).length = openCommas s + 1 := by
  fun_induction splitList s with
  | case1 => rfl
  | case2 => rfl
  | case3 c s ih => rw [length_consItem c (splitList_ne_nil s), ih, openCommas_escape]
  | case4 s _ _ ih =>
    rw [List.length_cons, ih, openCommas_plain (by decide), if_pos rfl]
    omega
  | case5 c s hlone hescape hcomma ih =>
    have hc : c ≠ '\\' := by
      -- A backslash is the last character, or begins an escape.
      rintro rfl
      cases s with
      | nil => exact hlone rfl rfl
      | cons d s => exact hescape d s rfl rfl
    rw [length_consItem c (splitList_ne_nil s), ih, openCommas_plain hc, if_neg hcomma,
      Nat.zero_add]

/-- Reading a list agrees with reading one text. The items of a list, joined by commas, are the
    text without its escapes, and there is one more of them than the text has open commas. Texts
    with their backslashes and commas escaped, joined by commas, are the items again. -/
theorem splitList_agrees :
    (∀ s, joinText [','] (splitList s) = unescape s) ∧
    (∀ s, (splitList s).length = openCommas s + 1) ∧
    ∀ ss : List (List Char), ss ≠ [] →
      splitList (joinText [','] (ss.map (escape [',']))) = ss :=
  ⟨joinText_splitList, length_splitList,
    fun _ => splitList_joinText_escape (List.mem_singleton_self ',')⟩

/-- Three commas of which a run of three backslashes covers one, and a run of two none, with a lone
    backslash at the end; and four items, the first empty and the last a backslash. -/
theorem splitList_agrees_backslashes :
    let s := "a\\\\\\,b\\\\,,\\".toList
    let ss := ["".toList, "a,b".toList, "\\,".toList, "\\".toList]
    joinText [','] (splitList s) = "a\\,b\\,,".toList ∧ (splitList s).length = 3 ∧
      openCommas s = 2 ∧ splitList ",a\\,b,\\\\\\,,\\\\".toList = ss := by
  intro s ss
  obtain ⟨hjoin, hlength, hitems⟩ := splitList_agrees
  have hopen : openCommas s = 2 := by decide
  exact ⟨hjoin s, (hlength s).trans (by rw [hopen]), hopen, hitems ss (List.cons_ne_nil _ _)⟩

end RowQuery.Literal
