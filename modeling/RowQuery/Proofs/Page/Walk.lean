import Mathlib.Algebra.Group.Nat.Defs
import Mathlib.Control.Monad.Basic
import RowQuery.Proofs.Page.Answer
import RowQuery.Proofs.Page.Links

/-!
# Walking through all pages

A client that has a page and follows its link to the next one, and the link of that, and so on,
takes a *walk*. Every link is read as an address of its own and carries the whole request, so that a
walk over a table shows the rows that the first request asks for, from its offset on, each of them
once and in order, and comes to an end.

* `Walk.unique`: a walk is determined by the address at which it begins;
* `exists_walk`: the walk from any page, by induction on the rows that are left;
* `walk_shows_answer`: what a walk shows, in terms of the rows that satisfy the filter.
-/

namespace RowQuery

variable {ρ ε : Type}

/-- The page at an address. -/
def pageAt (settings : PageSettings) (source : Source ρ ε) (filter? : Option RowFilter)
    (address : String) : Except (PageError ε) (Page ρ) := do
  let r ← (PageRequest.ofUrl settings address).mapError .request
  r.page source filter?

/-- From an address on, the pages that are met when the link to the next page is followed as long as
    there is one. Every address is read under the same settings, and every request is made to the
    same source. -/
inductive Walk (settings : PageSettings) (source : Source ρ ε) (filter? : Option RowFilter) :
    String → List (Page ρ) → Prop
  | last {address : String} {p : Page ρ} (hp : pageAt settings source filter? address = .ok p)
      (hnext : p.next? = none) : Walk settings source filter? address [p]
  | step {address next : String} {p : Page ρ} {ps : List (Page ρ)}
      (hp : pageAt settings source filter? address = .ok p) (hnext : p.next? = some next)
      (h : Walk settings source filter? next ps) : Walk settings source filter? address (p :: ps)

variable {settings : PageSettings} {filter? : Option RowFilter} {address : String}

/-- A walk begins with the page at its address, and goes on where the link of that leads. -/
theorem Walk.of_page {source : Source ρ ε} {p : Page ρ} {ps : List (Page ρ)}
    (h : Walk settings source filter? address ps)
    (hp : pageAt settings source filter? address = .ok p) :
    ∃ qs, ps = p :: qs ∧ (p.next? = none → qs = []) ∧
      ∀ next, p.next? = some next → Walk settings source filter? next qs := by
  cases h with
  | last hp' hnext' =>
    obtain rfl := Except.ok.inj (hp'.symm.trans hp)
    refine ⟨[], rfl, fun _ => rfl, fun next hnext => ?_⟩
    rw [hnext'] at hnext
    cases hnext
  | @step _ next' p' qs hp' hnext' h =>
    obtain rfl := Except.ok.inj (hp'.symm.trans hp)
    refine ⟨qs, rfl, fun hnext => ?_, fun next hnext => ?_⟩
    · rw [hnext'] at hnext
      cases hnext
    · obtain rfl := Option.some.inj (hnext'.symm.trans hnext)
      exact h

theorem Walk.unique {source : Source ρ ε} {ps qs : List (Page ρ)}
    (h : Walk settings source filter? address ps) (h' : Walk settings source filter? address qs) :
    ps = qs := by
  induction h generalizing qs with
  | last hp hnext =>
    obtain ⟨qs, rfl, hnil, -⟩ := h'.of_page hp
    rw [hnil hnext]
  | step hp hnext _ ih =>
    obtain ⟨qs, rfl, -, hrest⟩ := h'.of_page hp
    rw [ih (hrest _ hnext)]

/-- The page of an answer that a request with a page size gets. -/
def PageRequest.pageOf (r : PageRequest) (rows : List Row) : Page Row where
  count := rows.length
  next? := r.next? rows.length
  prev? := r.prev?
  rows := (rows.drop r.offset).take r.limit.toNat

theorem PageRequest.page_eq_ok {r : PageRequest} {t : Table} {p : Page Row}
    (hlimit : 0 < r.limit) : r.page t.source filter? = .ok p ↔
      ∃ rows, t.answer (r.query filter?) = .ok rows ∧ r.pageOf rows = p := by
  have hcut : ∀ rows, (r.query filter?).cut rows = (rows.drop r.offset).take r.limit.toNat := by
    exact fun rows => PageQuery.cut_of_limit (if_pos hlimit) rows
  rw [page_table, map_eq_ok]
  simp only [hcut]
  cases t.answer (r.query filter?) with
  | error e => exact ⟨nofun, nofun⟩
  | ok rows => simp only [mapError_ok, Except.ok.injEq, exists_eq_left', pageOf]

/-- From every page there is a walk, and it shows the rest of the answer. -/
theorem exists_walk {t : Table} {rows : List Row} {r : PageRequest}
    (hmax : settings.maxOffset? = none) (hrows : rows.length < 2 ^ 63)
    (hr : PageRequest.ofUrl settings address = .ok r) (hlimit : 0 < r.limit)
    (hanswer : t.answer (r.query filter?) = .ok rows) :
    ∃ ps, Walk settings t.source filter? address ps ∧ (∀ p ∈ ps, p.count = rows.length) ∧
      ps.flatMap Page.rows = rows.drop r.offset := by
  have hcount : rows.length ≤ maxCount := by
    rw [maxCount]
    omega
  -- A page size is positive, so that each page leaves fewer rows than there were.
  induction hleft : rows.length - r.offset using Nat.strongRecOn generalizing address r with
  | ind left ih =>
    have hpage : pageAt settings t.source filter? address = .ok (r.pageOf rows) := by
      rw [pageAt, hr]
      exact (PageRequest.page_eq_ok hlimit).2 ⟨rows, hanswer, rfl⟩
    have hnext : (r.pageOf rows).next? = _ := PageRequest.next?_eq hcount hlimit
    by_cases hmore : r.offset + r.limit.toNat < rows.length
    · -- The next address is read as the same request from the end of this page on.
      rw [if_pos hmore] at hnext
      have hsize : (r.limit.toNat : Int) = r.limit := Int.toNat_of_nonneg (by omega)
      have hfits : ∀ n : Nat, n < 2 ^ 63 → Decimal.isInt64 n = true := by
        intro n hn
        apply isInt64_natCast
        rw [Decimal.int64Max]
        omega
      have hbound : ∀ bound, settings.maxOffset? = some bound →
          r.offset + r.limit.toNat ≤ bound := by
        rw [hmax]
        nofun
      have hr' := PageRequest.ofUrl_pageUrl hr hbound hsize (hfits _ (by omega))
        (hfits _ (by omega))
      obtain ⟨ps, hwalk, hcounts, hrest⟩ := ih (rows.length - (r.offset + r.limit.toNat))
        (by omega) hr' hlimit hanswer rfl
      refine ⟨_, .step hpage hnext hwalk, List.forall_mem_cons.2 ⟨rfl, hcounts⟩, ?_⟩
      rw [List.flatMap_cons, hrest, PageRequest.pageOf, ← List.drop_drop, List.take_append_drop]
    · rw [if_neg hmore] at hnext
      refine ⟨_, .last hpage hnext, fun p hp => ?_, ?_⟩
      · rw [List.mem_singleton] at hp
        rw [hp]
        rfl
      · rw [List.flatMap_singleton, PageRequest.pageOf, List.take_of_length_le]
        rw [List.length_drop]
        omega

/-- A walk over a table comes to an end and shows the rows that satisfy the filter, in their order
    and from the offset of the first request on. Every page on the way reports their number. -/
theorem walk_shows_answer {t : Table} {r : PageRequest} {p : Page Row}
    (hrows : t.rows.length < 2 ^ 63) (hmax : settings.maxOffset? = none)
    (hr : PageRequest.ofUrl settings address = .ok r) (hlimit : 0 < r.limit)
    (hp : r.page t.source filter? = .ok p) :
    ∃ matching ps, t.select (r.query filter?).filter? = .ok matching ∧
      (Table.ordered (r.query filter?).order? matching).Perm matching ∧
      (∀ qs, Walk settings t.source filter? address qs ↔ qs = p :: ps) ∧
      (∀ q ∈ p :: ps, q.count = matching.length) ∧
      (p :: ps).flatMap Page.rows =
        (Table.ordered (r.query filter?).order? matching).drop r.offset := by
  obtain ⟨rows, hanswer, -⟩ := (PageRequest.page_eq_ok hlimit).1 hp
  obtain ⟨matching, hmatching, rfl⟩ := Table.exists_select_of_answer hanswer
  have hperm := Table.ordered_perm (r.query filter?).order? matching
  -- A filter only selects, so that the count fits a machine word as the table's does.
  have hfits : (Table.ordered (r.query filter?).order? matching).length < 2 ^ 63 := by
    have := Table.length_select_le hmatching
    rw [hperm.length_eq]
    omega
  obtain ⟨ps, hwalk, hcounts, hshown⟩ := exists_walk hmax hfits hr hlimit hanswer
  have hpage : pageAt settings t.source filter? address = .ok p := by
    rw [pageAt, hr]
    exact hp
  obtain ⟨qs, rfl, -, -⟩ := hwalk.of_page hpage
  refine ⟨matching, qs, hmatching, hperm, fun ps => ⟨fun h => h.unique hwalk, ?_⟩, ?_, hshown⟩
  · rintro rfl
    exact hwalk
  · intro q hq
    rw [hcounts q hq, hperm.length_eq]

/-- Three of four rows in order, two on a page: `limit=2&filter=n:gt:0&sort=n&desc=no`. -/
theorem walk_shows_answer_three_rows :
    let row (n : Int) : Row := (∅ : Row).insert "n" (.int n)
    let t : Table := ⟨⟨(∅ : Named ColumnType).insert "n" .integer⟩,
      [row 3, row 0, row 1, row 2], .strict⟩
    let address := "/r?limit=2&filter=n%3Agt:0&sort=n&desc=no#x"
    let p : Page Row := ⟨3, some "/r?limit=2&filter=n%3Agt%3A0&sort=n&desc=no&offset=2", none,
      [row 1, row 2]⟩
    ∃ r, PageRequest.ofUrl {} address = .ok r ∧ r.page t.source none = .ok p ∧
      ∃ ps, (∀ qs, Walk {} t.source none address qs ↔ qs = p :: ps) ∧
        (p :: ps).flatMap Page.rows = [row 1, row 2, row 3] := by
  intro row t address p
  let r : PageRequest := ⟨⟨"/r", [("limit", "2"), ("filter", "n:gt:0"), ("sort", "n"),
    ("desc", "no")]⟩, 0, 2, "n", .ascending, some "n:gt:0"⟩
  have hr : PageRequest.ofUrl {} address = .ok r := by decide +kernel
  have hp : r.page t.source none = .ok p := by decide +kernel
  obtain ⟨matching, ps, hmatching, -, hwalk, -, hshown⟩ :=
    walk_shows_answer (by decide) rfl hr (by decide) hp
  have hselect : t.select (r.query none).filter? = .ok [row 3, row 1, row 2] := by decide +kernel
  obtain rfl : matching = [row 3, row 1, row 2] := Except.ok.inj (hmatching.symm.trans hselect)
  have hordered : Table.ordered (r.query none).order? [row 3, row 1, row 2] =
      [row 1, row 2, row 3] := by decide +kernel
  refine ⟨r, hr, hp, ps, hwalk, ?_⟩
  rw [hshown, hordered]
  rfl

end RowQuery
