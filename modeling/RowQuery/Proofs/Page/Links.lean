import RowQuery.Proofs.Decimal
import RowQuery.Proofs.Page.Address
import RowQuery.Proofs.Result

/-!
# Following the links of a request

The address of another page is made from the address of a request by setting `limit` and `offset`.
It is read as the same request for that page: order, filter and page size are what they were.

* `PageParameters.ofUrl_eq_ok`: which addresses have parameters, and which ones;
* `PageRequest.build_eq_ok`: which parameters make a request, and which one;
* `PageRequest.ofUrl_pageUrl`: the request that the address of another page is read as;
* `PageRequest.next?_eq`: when there is a next page, as long as the count fits a machine word.
-/

namespace RowQuery

/-! ## Numbers as parameters -/

theorem isInt64_natCast {n : Nat} (h : (n : Int) ≤ Decimal.int64Max) :
    Decimal.isInt64 n = true := by
  have hlow : Decimal.int64Min ≤ n := by
    rw [Decimal.int64Min]
    omega
  rw [Decimal.isInt64, decide_eq_true hlow, decide_eq_true h]
  rfl

theorem readInt64?_numberText_eq (i : Int) :
    Decimal.readInt64? (Text.trim (numberText i).toList) = (some i).filter Decimal.isInt64 := by
  rw [numberText, String.toList_ofList, Decimal.readInt64?_trim_intText]

/-- A number that fits a machine word is read back. -/
theorem readInt64?_numberText {i : Int} (h : Decimal.isInt64 i) :
    Decimal.readInt64? (Text.trim (numberText i).toList) = some i := by
  rw [readInt64?_numberText_eq]
  exact Option.filter_some_pos h

/-- A number that is written as a parameter and can be read is read back. -/
theorem eq_some_of_numberText {raw? : Option String} {i? : Option Int} {i : Int}
    (h : raw?.map (fun s => Decimal.readInt64? (Text.trim s.toList)) = i?.map some)
    (hraw : raw? = some (numberText i)) : i? = some i := by
  rw [hraw, Option.map_some, readInt64?_numberText_eq] at h
  obtain ⟨j, hj, hread⟩ := Option.map_eq_some_iff.1 h.symm
  rw [hj, (Option.filter_eq_some_iff.1 hread.symm).1]

namespace PageParameters

/-- A parameter is read if it is not given, or given as it has to be. -/
theorem readGiven_eq_ok {α : Type} {read : String → Option α} {fault : String → RequestError}
    {raw? : Option String} {a? : Option α} :
    readGiven read fault raw? = .ok a? ↔ raw?.map read = a?.map some := by
  rcases raw? with _ | raw
  · cases a? <;> simp [readGiven]
  · cases hr : read raw <;> cases a? <;> simp [readGiven, hr]

/-- Which addresses have parameters, and which ones. -/
theorem ofUrl_eq_ok {u : Url} {p : PageParameters} : ofUrl u = .ok p ↔
    (u.get? "offset").map (fun s => Decimal.readInt64? (Text.trim s.toList)) =
        p.offset?.map some ∧
      (u.get? "limit").map (fun s => Decimal.readInt64? (Text.trim s.toList)) =
        p.limit?.map some ∧
      (u.get? "desc").map readFlag? = p.descending?.map some ∧
      u.get? "filter" = p.filter? ∧ u.get? "sort" = p.sort? := by
  constructor
  · intro h
    obtain ⟨offset?, hoffset, h⟩ := bind_eq_ok.1 h
    obtain ⟨limit?, hlimit, h⟩ := bind_eq_ok.1 h
    obtain ⟨descending?, hdescending, h⟩ := bind_eq_ok.1 h
    cases h
    exact ⟨readGiven_eq_ok.1 hoffset, readGiven_eq_ok.1 hlimit, readGiven_eq_ok.1 hdescending,
      rfl, rfl⟩
  · obtain ⟨offset?, limit?, filter?, sort?, descending?⟩ := p
    rintro ⟨hoffset, hlimit, hdescending, rfl, rfl⟩
    exact bind_eq_ok.2 ⟨offset?, readGiven_eq_ok.2 hoffset, bind_eq_ok.2 ⟨limit?,
      readGiven_eq_ok.2 hlimit, bind_eq_ok.2 ⟨descending?, readGiven_eq_ok.2 hdescending, rfl⟩⟩⟩

/-- Parameters with another offset and another limit. -/
theorem ofUrl_of_get? {u v : Url} {p : PageParameters} {offset limit : Int}
    (h : ofUrl u = .ok p) (hoffset : v.get? "offset" = some (numberText offset))
    (hlimit : v.get? "limit" = some (numberText limit)) (ho : Decimal.isInt64 offset)
    (hl : Decimal.isInt64 limit)
    (hother : ∀ name, name ≠ "offset" → name ≠ "limit" → v.get? name = u.get? name) :
    ofUrl v = .ok { p with offset? := some offset, limit? := some limit } := by
  obtain ⟨-, -, hdescending, hfilter, hsort⟩ := ofUrl_eq_ok.1 h
  refine ofUrl_eq_ok.2 ⟨?_, ?_, ?_, ?_, ?_⟩
  · rw [hoffset, Option.map_some, readInt64?_numberText ho]
    rfl
  · rw [hlimit, Option.map_some, readInt64?_numberText hl]
    rfl
  · rw [hother "desc" (by decide) (by decide), hdescending]
  · rw [hother "filter" (by decide) (by decide), hfilter]
  · rw [hother "sort" (by decide) (by decide), hsort]

end PageParameters

namespace PageRequest

variable {settings : PageSettings} {url : Url} {p : PageParameters} {r : PageRequest}

/-- Which parameters make a request, and which one. -/
theorem build_eq_ok : build settings url p = .ok r ↔
    0 ≤ p.offset?.getD settings.defaultOffset ∧
      (∀ bound, settings.maxOffset? = some bound →
        p.offset?.getD settings.defaultOffset ≤ bound) ∧
      -1 ≤ p.limit?.getD settings.defaultLimit ∧
      p.limit?.getD settings.defaultLimit ≤ settings.maxLimit ∧
      r = {
        url, limit := p.limit?.getD settings.defaultLimit
        offset := (p.offset?.getD settings.defaultOffset : Int).toNat
        sort := p.sort?.getD settings.defaultSort
        direction := .ofDescending (p.descending?.getD settings.defaultDescending)
        filter? := p.filter?.filter fun s => !Text.isBlank s } := by
  simp only [build]
  generalize (p.offset?.getD settings.defaultOffset : Int) = offset
  generalize p.limit?.getD settings.defaultLimit = limit
  have hbound : (settings.maxOffset?.any fun bound => decide ((bound : Int) < offset)) = true ↔
      ¬∀ bound, settings.maxOffset? = some bound → offset ≤ bound := by
    cases settings.maxOffset? <;> simp
  -- One check after the other: the first that fails refutes a part of the right side.
  by_cases hoffset : offset < 0
  · rw [if_pos hoffset]
    exact ⟨nofun, fun h => absurd h.1 (Int.not_le.2 hoffset)⟩
  rw [if_neg hoffset]
  by_cases hmax : (settings.maxOffset?.any fun bound => decide ((bound : Int) < offset)) = true
  · rw [if_pos hmax]
    exact ⟨nofun, fun h => absurd h.2.1 (hbound.1 hmax)⟩
  rw [if_neg hmax]
  by_cases hlimit : limit < -1 ∨ settings.maxLimit < limit
  · rw [if_pos hlimit]
    refine ⟨nofun, fun h => ?_⟩
    have := h.2.2
    omega
  rw [if_neg hlimit]
  constructor
  · intro h
    cases h
    exact ⟨by omega, by simpa using mt hbound.2 hmax, by omega, by omega, rfl⟩
  · rintro ⟨-, -, -, -, rfl⟩
    rfl

theorem url_of_ofUrl {address : String} (h : ofUrl settings address = .ok r) :
    r.url = Url.parse address := by
  obtain ⟨p, -, h⟩ := bind_eq_ok.1 h
  obtain ⟨-, -, -, -, rfl⟩ := build_eq_ok.1 h
  rfl

theorem plain_url {address : String} (h : ofUrl settings address = .ok r) : r.url.Plain := by
  rw [url_of_ofUrl h]
  exact Url.plain_parse address

/-- A request is built from the parameters of its own address. -/
theorem exists_build {address : String} (h : ofUrl settings address = .ok r) :
    ∃ p, PageParameters.ofUrl r.url = .ok p ∧ build settings r.url p = .ok r := by
  rw [url_of_ofUrl h]
  exact bind_eq_ok.1 h

/-- The address of another page has the parameters of the request, but for offset and limit. -/
theorem ofUrl_pageUrl_eq_build {address : String} {size offset : Nat}
    (h : ofUrl settings address = .ok r) (hp : PageParameters.ofUrl r.url = .ok p)
    (hs : Decimal.isInt64 size) (ho : Decimal.isInt64 offset) :
    ofUrl settings (r.pageUrl size offset) =
      build settings ((r.url.set "limit" (numberText size)).set "offset" (numberText offset))
        { p with offset? := some offset, limit? := some size } := by
  rw [ofUrl, pageUrl, Url.parse_render (((plain_url h).set ..).set ..),
    PageParameters.ofUrl_of_get? hp (Url.get?_set_self ..) ?_ ho hs ?_]
  · rfl
  · rw [Url.get?_set_of_ne _ _ (by decide), Url.get?_set_self]
  · intro name hoffset hlimit
    rw [Url.get?_set_of_ne _ _ hoffset, Url.get?_set_of_ne _ _ hlimit]

/-- The address of another page is read as the same request for that page. -/
theorem ofUrl_pageUrl {address : String} {size offset : Nat} (h : ofUrl settings address = .ok r)
    (hmax : ∀ bound, settings.maxOffset? = some bound → offset ≤ bound)
    (hsize : (size : Int) = r.limit) (hs : Decimal.isInt64 size) (ho : Decimal.isInt64 offset) :
    ofUrl settings (r.pageUrl size offset) = .ok { r with
      url := (r.url.set "limit" (numberText size)).set "offset" (numberText offset), offset } := by
  obtain ⟨p, hp, hr⟩ := exists_build h
  rw [ofUrl_pageUrl_eq_build h hp hs ho]
  -- The page size has passed its checks before; only the offset is new.
  obtain ⟨-, -, hlow, hhigh, hrequest⟩ := build_eq_ok.1 hr
  have hgiven : (size : Int) = p.limit?.getD settings.defaultLimit := by rw [hsize, hrequest]
  refine build_eq_ok.2 ⟨Int.natCast_nonneg offset, fun bound hbound => ?_, ?_, ?_, ?_⟩
  · exact Int.ofNat_le.2 (hmax bound hbound)
  · rw [Option.getD_some, hgiven]
    exact hlow
  · rw [Option.getD_some, hgiven]
    exact hhigh
  · rw [Option.getD_some, Option.getD_some, Int.toNat_natCast, hgiven, hrequest]

/-- There is a next page if there are rows behind this one. -/
theorem next?_eq {count : Nat} (hcount : count ≤ maxCount) (hlimit : 0 < r.limit) :
    r.next? count = if r.offset + r.limit.toNat < count then
      some (r.pageUrl r.limit.toNat (r.offset + r.limit.toNat)) else none := by
  rw [next?, pageSize?, if_pos hlimit]
  show (if min (r.offset + r.limit.toNat) maxCount < count then _ else none) = _
  by_cases hmore : r.offset + r.limit.toNat < count
  · have hmin : min (r.offset + r.limit.toNat) maxCount = r.offset + r.limit.toNat :=
      Nat.min_eq_left (by omega)
    rw [hmin]
  · rw [if_neg hmore, if_neg (by omega)]

end PageRequest

end RowQuery
