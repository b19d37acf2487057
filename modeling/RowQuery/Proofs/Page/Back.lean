import Mathlib.Control.Monad.Basic
import RowQuery.Proofs.Page.Links

/-!
# The way back

The link to the previous page goes back by the size of a page. Where that would be the first row or
one before it, the link leaves the offset out and leaves it to the settings to put one in. If their
default is the first row, every link goes back and the way comes to an end. If it is another row,
the link may lead forward or stay, and the way turns around for ever.

* `PageRequest.prev?_eq`: when there is a previous page, and where its link leads;
* `PageRequest.offset_prev?`: the offset that the link is read with;
* `PageRequest.exists_ofUrl_prev?`: the link is read again, if the defaults can be asked for;
* `way_back`: when a link goes back, and when the way back ends.
-/

namespace RowQuery

/-- Settings whose defaults can be asked for: numbers that are read from an address, and an offset
    within its bound. -/
structure PageSettings.Askable (settings : PageSettings) : Prop where
  offset : Decimal.isInt64 settings.defaultOffset
  limit : Decimal.isInt64 settings.defaultLimit
  bound : ∀ bound, settings.maxOffset? = some bound → settings.defaultOffset ≤ bound

namespace PageRequest

variable {settings : PageSettings} {address u : String} {r r' : PageRequest}

/-- The offset one page before, if that is behind the first row. -/
def offsetBefore? (r : PageRequest) : Option Nat :=
  if 0 < r.limit ∧ r.limit < r.offset then some (r.offset - r.limit.toNat) else none

theorem offsetBefore?_eq_some {n : Nat} : r.offsetBefore? = some n ↔
    0 < r.limit ∧ r.limit < r.offset ∧ r.offset - r.limit.toNat = n := by
  rw [offsetBefore?, Option.ite_none_right_eq_some, Option.some.injEq, and_assoc]

/-- When there is a previous page, and where its link leads. -/
theorem prev?_eq (r : PageRequest) : r.prev? =
    if r.offset = 0 then none
    else some (match r.offsetBefore? with
      | some n => r.pageUrl r.limit.toNat n
      | none => (r.url.erase "offset").render) := by
  rw [prev?, pageSize?, offsetBefore?]
  by_cases hlimit : 0 < r.limit
  · by_cases hlt : r.limit < r.offset
    · have hsize : r.limit.toNat < r.offset := by omega
      simp [hlimit, hlt, hsize]
    · have hsize : ¬ r.limit.toNat < r.offset := by omega
      simp [hlimit, hlt, hsize]
  · simp [hlimit]

theorem offset_ne_zero_of_prev? (h : r.prev? = some u) : r.offset ≠ 0 := by
  rw [prev?_eq, Option.ite_none_left_eq_some] at h
  exact h.1

/-- The address of the link to the previous page. -/
theorem eq_of_prev? (h : r.prev? = some u) : u = match r.offsetBefore? with
    | some n => r.pageUrl r.limit.toNat n
    | none => (r.url.erase "offset").render := by
  rw [prev?_eq, Option.ite_none_left_eq_some] at h
  exact (Option.some.inj h.2).symm

/-! ## Where a link leads -/

/-- The offset of a request is the one that is asked for, or else the default. -/
theorem offset_of_ofUrl {url : Url} (hurl : url.Plain) (h : ofUrl settings url.render = .ok r) :
    (url.get? "offset" = none → r.offset = settings.defaultOffset) ∧
      ∀ n : Nat, url.get? "offset" = some (numberText n) → r.offset = n := by
  rw [ofUrl, Url.parse_render hurl] at h
  obtain ⟨p, hp, h⟩ := bind_eq_ok.1 h
  obtain ⟨-, -, -, -, rfl⟩ := build_eq_ok.1 h
  obtain ⟨hoffset, -⟩ := PageParameters.ofUrl_eq_ok.1 hp
  constructor
  · intro hnone
    have hgiven : p.offset? = none := by simpa [hnone] using hoffset.symm
    rw [hgiven]
    exact Int.toNat_natCast _
  · intro n hn
    rw [eq_some_of_numberText hoffset hn]
    exact Int.toNat_natCast _

/-- The offset that the link to the previous page is read with. -/
theorem offset_prev? (hr : ofUrl settings address = .ok r) (hprev : r.prev? = some u)
    (hr' : ofUrl settings u = .ok r') :
    r'.offset = r.offsetBefore?.getD settings.defaultOffset := by
  have hplain := plain_url hr
  obtain rfl := eq_of_prev? hprev
  cases hbefore : r.offsetBefore? with
  | none =>
    rw [hbefore] at hr'
    exact (offset_of_ofUrl (hplain.erase _) hr').1 (Url.get?_erase_self ..)
  | some n =>
    rw [hbefore] at hr'
    exact (offset_of_ofUrl ((hplain.set ..).set ..) hr').2 n (Url.get?_set_self ..)

/-- A link goes back by a page, unless that leads to the first row and the default offset is not
    less than the one at hand. -/
theorem offset_prev?_lt_iff (hr : ofUrl settings address = .ok r) (hprev : r.prev? = some u)
    (hr' : ofUrl settings u = .ok r') : r'.offset < r.offset ↔
      (0 < r.limit ∧ r.limit < r.offset) ∨ settings.defaultOffset < r.offset := by
  rw [offset_prev? hr hprev hr', offsetBefore?]
  split
  · rename_i hpage
    refine iff_of_true ?_ (.inl hpage)
    rw [Option.getD_some]
    omega
  · rename_i hpage
    rw [Option.getD_none, or_iff_right hpage]

/-- What is read from a text fits a machine word, and so does what stands in for it. -/
theorem isInt64_getD {raw? : Option String} {i? : Option Int} {default : Int}
    (h : raw?.map (fun s => Decimal.readInt64? (Text.trim s.toList)) = i?.map some)
    (hdefault : Decimal.isInt64 default) : Decimal.isInt64 (i?.getD default) := by
  cases i? with
  | none => exact hdefault
  | some i =>
    obtain ⟨raw, -, hi⟩ := Option.map_eq_some_iff.1 h
    exact (Option.filter_eq_some_iff.1 hi).2

/-- The limit of a request has been read from an address, or is the default. -/
theorem isInt64_limit (hlimit : Decimal.isInt64 settings.defaultLimit)
    (h : ofUrl settings address = .ok r) : Decimal.isInt64 r.limit := by
  obtain ⟨p, hp, h⟩ := bind_eq_ok.1 h
  obtain ⟨-, -, -, -, rfl⟩ := build_eq_ok.1 h
  exact isInt64_getD (PageParameters.ofUrl_eq_ok.1 hp).2.1 hlimit

/-- The offset of a request is within its bound. -/
theorem offset_le (h : ofUrl settings address = .ok r) {bound : Nat}
    (hb : settings.maxOffset? = some bound) : r.offset ≤ bound := by
  obtain ⟨p, -, h⟩ := bind_eq_ok.1 h
  obtain ⟨-, hbound, -, -, rfl⟩ := build_eq_ok.1 h
  have := hbound bound hb
  show (p.offset?.getD (settings.defaultOffset : Int)).toNat ≤ bound
  omega

/-- The numbers of a request have been read from an address, or are the defaults. -/
theorem isInt64_of_ofUrl (hs : settings.Askable) (h : ofUrl settings address = .ok r) :
    Decimal.isInt64 r.offset ∧ Decimal.isInt64 r.limit := by
  refine ⟨?_, isInt64_limit hs.limit h⟩
  obtain ⟨p, hp, h⟩ := bind_eq_ok.1 h
  obtain ⟨hpos, -, -, -, rfl⟩ := build_eq_ok.1 h
  show Decimal.isInt64 ((p.offset?.getD settings.defaultOffset).toNat : Int)
  rw [Int.toNat_of_nonneg hpos]
  exact isInt64_getD (PageParameters.ofUrl_eq_ok.1 hp).1 hs.offset

/-- An address without its offset is read as the same request from the default offset on, if that
    is within its bound. -/
theorem ofUrl_erase
    (hbound : ∀ bound, settings.maxOffset? = some bound → settings.defaultOffset ≤ bound)
    (h : ofUrl settings address = .ok r) :
    ofUrl settings (r.url.erase "offset").render = .ok
      { r with url := r.url.erase "offset", offset := settings.defaultOffset } := by
  have hplain := (plain_url h).erase "offset"
  obtain ⟨p, hp, h⟩ := bind_eq_ok.1 h
  obtain ⟨-, -, hlow, hhigh, rfl⟩ := build_eq_ok.1 h
  obtain ⟨-, hlimit, hdescending, hfilter, hsort⟩ := PageParameters.ofUrl_eq_ok.1 hp
  rw [ofUrl, Url.parse_render hplain]
  refine bind_eq_ok.2 ⟨{ p with offset? := none }, PageParameters.ofUrl_eq_ok.2 ⟨?_, ?_⟩, ?_⟩
  · rw [Url.get?_erase_self]
    rfl
  · rw [Url.get?_erase_of_ne _ (by decide), Url.get?_erase_of_ne _ (by decide),
      Url.get?_erase_of_ne _ (by decide), Url.get?_erase_of_ne _ (by decide)]
    exact ⟨hlimit, hdescending, hfilter, hsort⟩
  · refine build_eq_ok.2 ⟨Int.natCast_nonneg _, fun bound hb => ?_, hlow, hhigh, rfl⟩
    exact Int.ofNat_le.2 (hbound bound hb)

/-- The address of the page before is read as the same request for that page. -/
theorem ofUrl_offsetBefore {n : Nat} (hlimit : Decimal.isInt64 settings.defaultLimit)
    (hr : ofUrl settings address = .ok r) (hbefore : r.offsetBefore? = some n)
    (hn : Decimal.isInt64 n) : ofUrl settings (r.pageUrl r.limit.toNat n) = .ok { r with
      url := (r.url.set "limit" (numberText r.limit.toNat)).set "offset" (numberText n),
      offset := n } := by
  obtain ⟨hpos, -, rfl⟩ := offsetBefore?_eq_some.1 hbefore
  have hnat := Int.toNat_of_nonneg (Int.le_of_lt hpos)
  refine ofUrl_pageUrl hr (fun bound hb => ?_) hnat (hnat.symm ▸ isInt64_limit hlimit hr) hn
  have := offset_le hr hb
  omega

/-- The link to the previous page is read as a request again. -/
theorem exists_ofUrl_prev? (hs : settings.Askable) (hr : ofUrl settings address = .ok r)
    (hpos : r.offset ≠ 0) : ∃ u r', r.prev? = some u ∧ ofUrl settings u = .ok r' := by
  rw [prev?_eq, if_neg hpos]
  cases hbefore : r.offsetBefore? with
  | none => exact ⟨_, _, rfl, ofUrl_erase hs.bound hr⟩
  | some n =>
    have hn : n ≤ r.offset := by
      obtain ⟨-, -, rfl⟩ := offsetBefore?_eq_some.1 hbefore
      exact Nat.sub_le _ _
    have hless : Decimal.isInt64 n = true := by
      have := of_decide_eq_true (Bool.and_eq_true_iff.1 (isInt64_of_ofUrl hs hr).1).2
      exact isInt64_natCast (by omega)
    exact ⟨_, _, rfl, ofUrl_offsetBefore hs.limit hr hbefore hless⟩

end PageRequest

/-! ## Following the links -/

/-- The link to the previous page of the request at an address. -/
def prevAt? (settings : PageSettings) (address : String) : Option String :=
  match PageRequest.ofUrl settings address with
  | .ok r => r.prev?
  | .error _ => none

/-- Where one arrives by following so many links to previous pages, if there are as many. -/
def followBack (settings : PageSettings) : Nat → String → Option String
  | 0, address => some address
  | n + 1, address => (prevAt? settings address).bind (followBack settings n)

variable {settings : PageSettings} {address : String} {r : PageRequest}

/-- If the default offset is the first row, every link goes back by a row at least. -/
theorem followBack_eq_none (hdefault : settings.defaultOffset = 0)
    (hr : PageRequest.ofUrl settings address = .ok r) {n : Nat} (hn : r.offset < n) :
    followBack settings n address = none := by
  induction n generalizing address r with
  | zero => exact absurd hn (Nat.not_lt_zero _)
  | succ n ih =>
    simp only [followBack, prevAt?, hr, Option.bind_eq_none_iff]
    intro u hprev
    have hpos := PageRequest.offset_ne_zero_of_prev? hprev
    cases hr' : PageRequest.ofUrl settings u with
    | error e =>
      -- A link that is refused ends the way as well.
      obtain ⟨m, rfl⟩ := Nat.exists_eq_succ_of_ne_zero (n := n) (by omega)
      simp only [followBack, prevAt?, hr', Option.bind_none]
    | ok r' =>
      have hlt := (PageRequest.offset_prev?_lt_iff hr hprev hr').2 (.inr (by omega))
      exact ih hr' (by omega)

/-- If the default offset is not the first row, the first row is never reached. -/
theorem followBack_isSome (hs : settings.Askable) (hdefault : settings.defaultOffset ≠ 0)
    (hr : PageRequest.ofUrl settings address = .ok r) (hpos : r.offset ≠ 0) (n : Nat) :
    (followBack settings n address).isSome = true := by
  induction n generalizing address r with
  | zero => rfl
  | succ n ih =>
    obtain ⟨u, r', hprev, hr'⟩ := PageRequest.exists_ofUrl_prev? hs hr hpos
    have hpos' : r'.offset ≠ 0 := by
      rw [PageRequest.offset_prev? hr hprev hr']
      cases hbefore : r.offsetBefore? with
      | none => exact hdefault
      | some m =>
        obtain ⟨hlimit, hlt, rfl⟩ := PageRequest.offsetBefore?_eq_some.1 hbefore
        rw [Option.getD_some]
        omega
    simp only [followBack, prevAt?, hr, hprev, Option.bind_some]
    exact ih hr' hpos'

/-- The link to the previous page goes back if it leads to a row behind the first, or if the default
    offset is less than the one at hand. If the default is the first row, the way back ends after as
    many links as there are rows in front, or before; else it never ends, as long as the defaults
    can be asked for. -/
theorem way_back (hr : PageRequest.ofUrl settings address = .ok r) :
    (∀ u r', r.prev? = some u → PageRequest.ofUrl settings u = .ok r' →
      (r'.offset < r.offset ↔
        (0 < r.limit ∧ r.limit < r.offset) ∨ settings.defaultOffset < r.offset)) ∧
      (settings.defaultOffset = 0 → followBack settings (r.offset + 1) address = none) ∧
      (settings.Askable → settings.defaultOffset ≠ 0 → r.offset ≠ 0 →
        ∀ n, (followBack settings n address).isSome = true) :=
  ⟨fun _ _ hprev hr' => PageRequest.offset_prev?_lt_iff hr hprev hr',
    fun hdefault => followBack_eq_none hdefault hr (Nat.lt_succ_self _),
    fun hs hdefault hpos => followBack_isSome hs hdefault hr hpos⟩

/-- By default the way back from `offset=5&limit=2` has three links, of which the last leaves the
    offset out. With the third row as the default offset it never ends. -/
theorem way_back_three_links :
    let address := "/r?offset=5&limit=2"
    followBack {} 3 address = some "/r?limit=2" ∧ followBack {} 6 address = none ∧
      ∀ n, (followBack { defaultOffset := 2 } n address).isSome = true := by
  intro address
  let r : PageRequest :=
    ⟨⟨"/r", [("offset", "5"), ("limit", "2")]⟩, 5, 2, "", .descending, none⟩
  have hr : PageRequest.ofUrl {} address = .ok r := by decide +kernel
  have hr' : PageRequest.ofUrl { defaultOffset := 2 } address = .ok r := by decide +kernel
  have hs : PageSettings.Askable { defaultOffset := 2 } :=
    ⟨by decide, by decide, fun _ h => by cases h⟩
  obtain ⟨-, hend, -⟩ := way_back hr
  obtain ⟨-, -, hendless⟩ := way_back hr'
  exact ⟨by decide +kernel, hend rfl, hendless hs (by decide) (by decide)⟩

/-- The link may lead forward, and from there back again: with the third row as the default offset,
    the page before `limit=1&offset=1` begins at the third row. -/
theorem offset_prev?_forward :
    let settings : PageSettings := { defaultOffset := 2 }
    let address := "/w?limit=1&offset=1"
    ∃ r u r', PageRequest.ofUrl settings address = .ok r ∧ r.prev? = some u ∧
      PageRequest.ofUrl settings u = .ok r' ∧ r.offset = 1 ∧ r'.offset = 2 ∧
      r'.prev? = some address := by
  intro settings address
  refine ⟨⟨⟨"/w", [("limit", "1"), ("offset", "1")]⟩, 1, 1, "", .descending, none⟩, "/w?limit=1",
    ⟨⟨"/w", [("limit", "1")]⟩, 2, 1, "", .descending, none⟩, ?_, ?_, ?_, rfl, rfl, ?_⟩
  all_goals decide +kernel

end RowQuery
