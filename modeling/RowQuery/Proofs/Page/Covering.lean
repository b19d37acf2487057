import Mathlib.Algebra.Order.Floor.Div
import RowQuery.Proofs.Page.Following
import RowQuery.Proofs.Page.Walk

/-!
# What the way back shows

If the default offset is the first row, the way back goes from page to page by their size and ends
on the first page, which may overlap the second. The pages that are met show every row in front of
the page at which the way begins. From the page before, as long as a whole one fits in front, the
link to the next page leads back to where one came from.

* `PageRequest.exists_prev?`: one step back;
* `PageRequest.exists_followBack`: the request that is met after any number of steps;
* `exists_page_in_front`: the page on which a row in front stands;
* `PageRequest.exists_next?_prev?`: back and forth;
* `way_back_covers`: how far the way back goes, and what it shows.
-/

namespace RowQuery

open PageRequest (ofUrl)

variable {settings : PageSettings} {address : String} {r r' : PageRequest}

theorem PageSettings.askable_of_zero (hoffset : settings.defaultOffset = 0)
    (hlimit : Decimal.isInt64 settings.defaultLimit) : settings.Askable :=
  ⟨by rw [hoffset]; decide, hlimit, fun _ _ => by rw [hoffset]; exact Nat.zero_le _⟩

namespace PageRequest

/-- The number of links that lead back to the first page. -/
def linksBack (r : PageRequest) : Nat :=
  r.offset ⌈/⌉ r.limit.toNat

theorem le_linksBack_iff {n : Nat} (hlimit : 0 < r.limit) :
    n ≤ r.linksBack ↔ n * r.limit.toNat < r.offset + r.limit.toNat := by
  have hsize : 0 < r.limit.toNat := by omega
  rw [linksBack, Nat.ceilDiv_eq_add_pred_div, Nat.le_div_iff_mul_le hsize]
  omega

theorem SamePages.refl (r : PageRequest) : r.SamePages r :=
  ⟨rfl, rfl, rfl, rfl⟩

theorem SamePages.trans {r'' : PageRequest} (h : r.SamePages r') (h' : r'.SamePages r'') :
    r.SamePages r'' :=
  ⟨h'.limit.trans h.limit, h'.sort.trans h.sort, h'.direction.trans h.direction,
    h'.filter.trans h.filter⟩

/-! ## Steps back -/

/-- One step back is a step by a page, but not beyond the first row. -/
theorem exists_prev? (hdefault : settings.defaultOffset = 0) (hs : settings.Askable)
    (hr : ofUrl settings address = .ok r) (hlimit : 0 < r.limit) (hpos : r.offset ≠ 0) :
    ∃ u r', r.prev? = some u ∧ ofUrl settings u = .ok r' ∧ r.SamePages r' ∧
      r'.offset = r.offset - r.limit.toNat := by
  obtain ⟨u, r', hprev, hr'⟩ := exists_ofUrl_prev? hs hr hpos
  have hlink : r.next? 0 = some u ∨ r.prev? = some u := .inr hprev
  refine ⟨u, r', hprev, hr', samePages_of_link hr hlink hr', ?_⟩
  rw [offset_prev? hr hprev hr', offsetBefore?, hdefault]
  split
  · rw [Option.getD_some]
  · rw [Option.getD_none]
    omega

/-- The request that is met after so many steps. -/
theorem exists_followBack (hdefault : settings.defaultOffset = 0) (hs : settings.Askable)
    (hr : ofUrl settings address = .ok r) (hlimit : 0 < r.limit) {n : Nat}
    (hn : n * r.limit.toNat < r.offset + r.limit.toNat) :
    ∃ u r', followBack settings n address = some u ∧ ofUrl settings u = .ok r' ∧
      r.SamePages r' ∧ r'.offset = r.offset - n * r.limit.toNat := by
  induction n generalizing address r with
  | zero => exact ⟨address, r, rfl, hr, .refl r, by rw [Nat.zero_mul, Nat.sub_zero]⟩
  | succ n ih =>
    rw [Nat.succ_mul] at hn
    obtain ⟨u, r', hprev, hr', hsame, hoffset⟩ :=
      exists_prev? hdefault hs hr hlimit (by omega)
    have hlimit' : 0 < r'.limit := by rwa [hsame.limit]
    obtain ⟨v, r'', hback, hr'', hsame', hoffset'⟩ :=
      ih hr' hlimit' (by rw [hsame.limit, hoffset]; omega)
    refine ⟨v, r'', ?_, hr'', hsame.trans hsame', ?_⟩
    · simp only [followBack, prevAt?, hr, hprev, Option.bind_some, hback]
    · rw [hoffset', hoffset, hsame.limit, Nat.succ_mul]
      omega

theorem prev?_eq_none_iff : r.prev? = none ↔ r.offset = 0 := by
  rw [prev?_eq]
  split <;> simp_all

/-- A step back by a whole page and a step forward lead to the same place, if there are rows. -/
theorem exists_next?_prev? (hdefault : settings.defaultOffset = 0) (hs : settings.Askable)
    (hr : ofUrl settings address = .ok r) (hlimit : 0 < r.limit)
    (hpage : r.limit.toNat ≤ r.offset) {count : Nat} (hcount : count ≤ maxCount)
    (hmore : r.offset < count) :
    ∃ u r' v r'', r.prev? = some u ∧ ofUrl settings u = .ok r' ∧ r'.next? count = some v ∧
      ofUrl settings v = .ok r'' ∧ r''.offset = r.offset := by
  obtain ⟨u, r', hprev, hr', hsame, hoffset⟩ := exists_prev? hdefault hs hr hlimit (by omega)
  have hlimit' : 0 < r'.limit := by rwa [hsame.limit]
  have hback : r'.offset + r'.limit.toNat = r.offset := by
    rw [hsame.limit, hoffset]
    omega
  have hsize : (r'.limit.toNat : Int) = r'.limit := Int.toNat_of_nonneg (Int.le_of_lt hlimit')
  obtain ⟨hfits, -⟩ := isInt64_of_ofUrl hs hr
  have hnext := next?_eq (r := r') hcount hlimit'
  rw [hback, if_pos hmore] at hnext
  have hread := ofUrl_pageUrl hr' (fun _ hb => offset_le hr hb) hsize
    (hsize.symm ▸ isInt64_limit hs.limit hr') hfits
  exact ⟨u, r', _, _, hprev, hr', hnext, hread, rfl⟩

/-! ## Pages met on the way -/

/-- Requests for the same pages of a table get parts of one answer. -/
theorem SamePages.answer_eq (h : r.SamePages r') (t : Table) (filter? : Option RowFilter) :
    t.answer (r'.query filter?) = t.answer (r.query filter?) := by
  simp only [Table.answer, query, h.sort, h.direction, h.filter]

end PageRequest

/-- Every place in front is on a page that is met after some steps. -/
theorem exists_steps {offset size i : Nat} (hsize : 0 < size) (hi : i < offset) :
    ∃ n, n * size < offset + size ∧ offset - n * size ≤ i ∧ i < offset - n * size + size := by
  have hdiv := Nat.div_add_mod' (offset - 1 - i) size
  have hmod := Nat.mod_lt (offset - 1 - i) hsize
  refine ⟨(offset - 1 - i) / size + 1, ?_⟩
  rw [Nat.succ_mul]
  omega

/-- A row in front stands on a page that is met on the way back, at its place. -/
theorem exists_page_in_front (hdefault : settings.defaultOffset = 0) (hs : settings.Askable)
    (hr : ofUrl settings address = .ok r) (hlimit : 0 < r.limit) {t : Table}
    {filter? : Option RowFilter} {rows : List Row}
    (hanswer : t.answer (r.query filter?) = .ok rows) {i : Nat} (hi : i < r.offset) :
    ∃ n ≤ r.linksBack, ∃ u r' q, followBack settings n address = some u ∧
      ofUrl settings u = .ok r' ∧ r'.page t.source filter? = .ok q ∧ r'.offset ≤ i ∧
      q.rows[i - r'.offset]? = rows[i]? := by
  have hsize : 0 < r.limit.toNat := by omega
  obtain ⟨n, hn, hlow, hhigh⟩ := exists_steps hsize hi
  obtain ⟨u, r', hback, hr', hsame, hoffset⟩ :=
    PageRequest.exists_followBack hdefault hs hr hlimit hn
  have hlimit' : 0 < r'.limit := by rwa [hsame.limit]
  have hpage := (PageRequest.page_eq_ok (p := r'.pageOf rows) hlimit').2
    ⟨rows, (hsame.answer_eq t filter?).trans hanswer, rfl⟩
  refine ⟨n, (PageRequest.le_linksBack_iff hlimit).2 hn, u, r', _, hback, hr', hpage, by omega, ?_⟩
  have hplace : r'.offset + (i - r'.offset) = i := by omega
  rw [PageRequest.pageOf, List.getElem?_take_of_lt, List.getElem?_drop, hplace]
  rw [hsame.limit]
  omega

/-- If the default offset is the first row, the way back from a page goes from page to page and ends
    on the first one, after as many links as it takes to pass the rows in front by whole pages.
    Every row of a table that stands in front is on a page that is met. From the page before, if a
    whole one fits in front and there are rows at the offset, the link to the next page leads
    back. -/
theorem way_back_covers (hdefault : settings.defaultOffset = 0)
    (hdefaultLimit : Decimal.isInt64 settings.defaultLimit)
    (hr : ofUrl settings address = .ok r) (hlimit : 0 < r.limit) :
    (∀ n ≤ r.offset ⌈/⌉ r.limit.toNat, ∃ u r', followBack settings n address = some u ∧
      ofUrl settings u = .ok r' ∧ r'.offset = r.offset - n * r.limit.toNat ∧
      (r'.offset = 0 ↔ n = r.offset ⌈/⌉ r.limit.toNat) ∧
      (r'.prev? = none ↔ n = r.offset ⌈/⌉ r.limit.toNat)) ∧
    (∀ (t : Table) filter? p, r.page t.source filter? = .ok p →
      ∃ matching, t.select (r.query filter?).filter? = .ok matching ∧
        (Table.ordered (r.query filter?).order? matching).Perm matching ∧
        ∀ i < r.offset, ∃ n ≤ r.offset ⌈/⌉ r.limit.toNat, ∃ u r' q,
          followBack settings n address = some u ∧ ofUrl settings u = .ok r' ∧
          r'.page t.source filter? = .ok q ∧ r'.offset ≤ i ∧
          q.rows[i - r'.offset]? = (Table.ordered (r.query filter?).order? matching)[i]?) ∧
    ∀ count ≤ maxCount, r.limit.toNat ≤ r.offset → r.offset < count →
      ∃ u r' v r'', r.prev? = some u ∧ ofUrl settings u = .ok r' ∧ r'.next? count = some v ∧
        ofUrl settings v = .ok r'' ∧ r''.offset = r.offset := by
  have hs := PageSettings.askable_of_zero hdefault hdefaultLimit
  have hlast : ∀ {n}, n ≤ r.linksBack → (r.offset - n * r.limit.toNat = 0 ↔ n = r.linksBack) := by
    intro n hn
    have hmore := PageRequest.le_linksBack_iff (n := n + 1) hlimit
    rw [Nat.succ_mul] at hmore
    omega
  refine ⟨fun n hn => ?_, fun t filter? p hp => ?_, fun count hcount hpage hmore =>
    PageRequest.exists_next?_prev? hdefault hs hr hlimit hpage hcount hmore⟩
  · obtain ⟨u, r', hback, hr', -, hoffset⟩ := PageRequest.exists_followBack hdefault hs hr hlimit
      ((PageRequest.le_linksBack_iff hlimit).1 hn)
    have hend : r'.offset = 0 ↔ n = r.linksBack := by rw [hoffset, hlast hn]
    exact ⟨u, r', hback, hr', hoffset, hend, PageRequest.prev?_eq_none_iff.trans hend⟩
  · obtain ⟨rows, hanswer, -⟩ := (PageRequest.page_eq_ok hlimit).1 hp
    obtain ⟨matching, hmatching, rfl⟩ := Table.exists_select_of_answer hanswer
    exact ⟨matching, hmatching, Table.ordered_perm _ _,
      fun i hi => exists_page_in_front hdefault hs hr hlimit hanswer hi⟩

/-- From `limit=2&offset=3` over four rows in order: two links back, of which the second leads by
    one row only. -/
theorem way_back_covers_two_links :
    let row (n : Int) : Row := (∅ : Row).insert "n" (.int n)
    let t : Table := ⟨⟨(∅ : Named ColumnType).insert "n" .integer⟩,
      [row 3, row 0, row 2, row 1], .lenient⟩
    let address := "/r?limit=2&offset=3&sort=n&desc=no"
    (∃ u r', followBack {} 2 address = some u ∧ ofUrl {} u = .ok r' ∧ r'.offset = 0 ∧
      r'.prev? = none) ∧
    (∀ i < 3, ∃ n ≤ 2, ∃ u r' q, followBack {} n address = some u ∧ ofUrl {} u = .ok r' ∧
      r'.page t.source none = .ok q ∧ q.rows[i - r'.offset]? = some (row i)) ∧
    ∃ r r' v r'', ofUrl {} address = .ok r ∧ r.prev? = some "/r?limit=2&offset=1&sort=n&desc=no" ∧
      ofUrl {} "/r?limit=2&offset=1&sort=n&desc=no" = .ok r' ∧ r'.next? 4 = some v ∧
      ofUrl {} v = .ok r'' ∧ r''.offset = 3 := by
  intro row t address
  let r : PageRequest := ⟨⟨"/r", [("limit", "2"), ("offset", "3"), ("sort", "n"), ("desc", "no")]⟩,
    3, 2, "n", .ascending, none⟩
  have hr : ofUrl {} address = .ok r := by decide +kernel
  have hlinks : r.offset ⌈/⌉ r.limit.toNat = 2 := by
    rw [Nat.ceilDiv_eq_add_pred_div]
    decide
  obtain ⟨hway, hrows, hnext⟩ := way_back_covers rfl (by decide) hr (by decide)
  rw [hlinks] at hway hrows
  refine ⟨?_, ?_, ?_⟩
  · obtain ⟨u, r', hback, hr', -, hoffset, hprev⟩ := hway 2 (Nat.le_refl 2)
    exact ⟨u, r', hback, hr', hoffset.2 rfl, hprev.2 rfl⟩
  · have hp : r.page t.source none = .ok ⟨4, none, some "/r?limit=2&offset=1&sort=n&desc=no",
        [row 3]⟩ := by
      decide +kernel
    obtain ⟨matching, hmatching, -, hcovered⟩ := hrows t none _ hp
    have hselect : t.select (r.query none).filter? = .ok [row 3, row 0, row 2, row 1] := by
      decide +kernel
    obtain rfl := Except.ok.inj (hmatching.symm.trans hselect)
    have hordered : Table.ordered (r.query none).order? [row 3, row 0, row 2, row 1] =
        [row 0, row 1, row 2, row 3] := by
      decide +kernel
    rw [hordered] at hcovered
    intro i hi
    obtain ⟨n, hn, u, r', q, hback, hr', hq, -, hat⟩ := hcovered i hi
    refine ⟨n, hn, u, r', q, hback, hr', hq, hat.trans ?_⟩
    obtain rfl | rfl | rfl : i = 0 ∨ i = 1 ∨ i = 2 := by omega
    all_goals rfl
  · obtain ⟨u, r', v, r'', hprev, hr', hv, hr'', hoffset⟩ :=
      hnext 4 (by decide) (by decide) (by decide)
    have hlink : r.prev? = some "/r?limit=2&offset=1&sort=n&desc=no" := by decide +kernel
    obtain rfl := Option.some.inj (hprev.symm.trans hlink)
    exact ⟨r, r', v, r'', hr, hlink, hr', hv, hr'', hoffset⟩

end RowQuery
