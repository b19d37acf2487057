import RowQuery.Proofs.Page.Back

/-!
# Links that can be followed

A link to another page is an address like any other, and is read under the settings that the request
was read under. Whether it is accepted is a matter of its offset alone. A link to the next page may
lead beyond the bound that the settings put on offsets, for it is made wherever there are rows left,
and is refused then. What an accepted link is read as differs from the request in nothing but the
offset.

* `PageRequest.next?_eq_some`, `PageRequest.eq_of_link`: the addresses that links are made of;
* `PageRequest.ofUrl_pageUrl_eq_error`: an address beyond the bound is refused;
* `PageRequest.samePages_of_get?`: addresses with the same parameters ask for the same pages;
* `links_followed`: which links are accepted, and what they are read as.
-/

namespace RowQuery

/-- Whether the settings let a request pass over so many rows. -/
def PageSettings.Allows (settings : PageSettings) (offset : Nat) : Prop :=
  ∀ bound, settings.maxOffset? = some bound → offset ≤ bound

namespace PageRequest

/-- Two requests for pages of the same rows: of one size, in one order, under one filter. -/
structure SamePages (r r' : PageRequest) : Prop where
  limit : r'.limit = r.limit
  sort : r'.sort = r.sort
  direction : r'.direction = r.direction
  filter : r'.filter? = r.filter?

/-- The offset one page on. -/
def offsetBehind (r : PageRequest) : Nat :=
  r.offset + r.limit.toNat

variable {settings : PageSettings} {address u : String} {r r' : PageRequest}

/-! ## The addresses of links -/

/-- A link to the next page carries the page size and the offset one page on. -/
theorem next?_eq_some {count : Nat} (hcount : count ≤ maxCount) (h : r.next? count = some u) :
    0 < r.limit ∧ u = r.pageUrl r.limit.toNat r.offsetBehind := by
  by_cases hlimit : 0 < r.limit
  · rw [next?_eq hcount hlimit, Option.ite_none_right_eq_some] at h
    exact ⟨hlimit, (Option.some.inj h.2).symm⟩
  · rw [next?, pageSize?, if_neg hlimit] at h
    cases h

/-- A link is the address with the page size and an offset, or the address without its offset. -/
theorem eq_of_link {count : Nat} (h : r.next? count = some u ∨ r.prev? = some u) :
    (0 < r.limit ∧ ∃ offset, u = r.pageUrl r.limit.toNat offset) ∨
      u = (r.url.erase "offset").render := by
  rcases h with h | h
  · obtain ⟨size, hsize, h⟩ := Option.bind_eq_some_iff.1 h
    obtain ⟨hlimit, rfl⟩ : 0 < r.limit ∧ r.limit.toNat = size := by
      simpa [pageSize?] using hsize
    have hu := (Option.ite_none_right_eq_some.1 h).2
    exact .inl ⟨hlimit, _, (Option.some.inj hu).symm⟩
  · obtain rfl := eq_of_prev? h
    cases hbefore : r.offsetBefore? with
    | none => exact .inr rfl
    | some n => exact .inl ⟨(offsetBefore?_eq_some.1 hbefore).1, n, rfl⟩

/-! ## Links that are refused -/

/-- The address of a page beyond the bound is refused. -/
theorem ofUrl_pageUrl_eq_error {size offset : Nat} (h : ofUrl settings address = .ok r)
    (hs : Decimal.isInt64 size) (ho : Decimal.isInt64 offset) (hmax : ¬ settings.Allows offset) :
    ofUrl settings (r.pageUrl size offset) = .error (.invalidOffset (numberText offset)) := by
  obtain ⟨p, hp, -⟩ := exists_build h
  obtain ⟨bound, hb, hlt⟩ : ∃ bound, settings.maxOffset? = some bound ∧ bound < offset := by
    simpa [PageSettings.Allows] using hmax
  rw [ofUrl_pageUrl_eq_build h hp hs ho]
  have hpos : ¬ ((offset : Int) < 0) := Int.not_lt.2 (Int.natCast_nonneg offset)
  have hbeyond : (settings.maxOffset?.any fun bound => decide ((bound : Int) < offset)) = true := by
    simp [hb, hlt]
  simp only [build, Option.getD_some, if_neg hpos, if_pos hbeyond]
  rfl

/-! ## Links that are accepted -/

theorem eq_of_map_some {α : Type} {a? b? : Option α} (h : a?.map some = b?.map some) : a? = b? :=
  Option.map_injective (fun _ _ => Option.some.inj) h

/-- Two addresses with the same parameters, but for the offset, ask for the same pages. The limit
    may be left to the settings in one of them if it is written in the other. -/
theorem samePages_of_get? {url : Url} (hurl : url.Plain) (h : ofUrl settings address = .ok r)
    (h' : ofUrl settings url.render = .ok r')
    (hlimit : url.get? "limit" = r.url.get? "limit" ∨ url.get? "limit" = some (numberText r.limit))
    (hother : ∀ name, name ≠ "offset" → name ≠ "limit" → url.get? name = r.url.get? name) :
    r.SamePages r' := by
  obtain ⟨p, hp, hr⟩ := exists_build h
  obtain ⟨p', hp', hr'⟩ := exists_build h'
  rw [url_of_ofUrl h', Url.parse_render hurl] at hp'
  obtain ⟨-, hl, hd, hf, hs⟩ := PageParameters.ofUrl_eq_ok.1 hp
  obtain ⟨-, hl', hd', hf', hs'⟩ := PageParameters.ofUrl_eq_ok.1 hp'
  obtain ⟨-, -, -, -, hr⟩ := build_eq_ok.1 hr
  obtain ⟨-, -, -, -, hr'⟩ := build_eq_ok.1 hr'
  have hdescending : p'.descending? = p.descending? :=
    eq_of_map_some (by rw [← hd', ← hd, hother "desc" (by decide) (by decide)])
  have hfilter : p'.filter? = p.filter? := by
    rw [← hf', ← hf, hother "filter" (by decide) (by decide)]
  have hsort : p'.sort? = p.sort? := by
    rw [← hs', ← hs, hother "sort" (by decide) (by decide)]
  have hsize : p'.limit?.getD settings.defaultLimit = r.limit := by
    rcases hlimit with hsame | hwritten
    · have hgiven : p'.limit? = p.limit? := eq_of_map_some (by rw [← hl', ← hl, hsame])
      rw [hgiven, hr]
    · rw [eq_some_of_numberText hl' hwritten, Option.getD_some]
  constructor
  · rw [hr', hsize]
  · rw [hr', hr, hsort]
  · rw [hr', hr, hdescending]
  · rw [hr', hr, hfilter]

/-- A link that is accepted asks for the same pages as the request it is a link of. -/
theorem samePages_of_link {count : Nat} (hr : ofUrl settings address = .ok r)
    (h : r.next? count = some u ∨ r.prev? = some u) (hr' : ofUrl settings u = .ok r') :
    r.SamePages r' := by
  have hplain := plain_url hr
  rcases eq_of_link h with ⟨hlimit, offset, rfl⟩ | rfl
  · refine samePages_of_get? ((hplain.set ..).set ..) hr hr' (.inr ?_) fun name ho hl => ?_
    · rw [Url.get?_set_of_ne _ _ (by decide), Url.get?_set_self,
        Int.toNat_of_nonneg (Int.le_of_lt hlimit)]
    · rw [Url.get?_set_of_ne _ _ ho, Url.get?_set_of_ne _ _ hl]
  · exact samePages_of_get? (hplain.erase _) hr hr' (.inl (Url.get?_erase_of_ne _ (by decide)))
      fun name ho _ => Url.get?_erase_of_ne _ ho

/-- A link to the next page is accepted if its offset is within the bound, and refused if not. -/
theorem ofUrl_next? {count : Nat} (hdefault : Decimal.isInt64 settings.defaultLimit)
    (hr : ofUrl settings address = .ok r) (hcount : count ≤ maxCount)
    (h : r.next? count = some u) (hn : Decimal.isInt64 r.offsetBehind) :
    (settings.Allows r.offsetBehind →
        ∃ r', ofUrl settings u = .ok r' ∧ r'.offset = r.offsetBehind) ∧
      (¬ settings.Allows r.offsetBehind →
        ofUrl settings u = .error (.invalidOffset (numberText r.offsetBehind))) := by
  obtain ⟨hlimit, rfl⟩ := next?_eq_some hcount h
  have hsize : (r.limit.toNat : Int) = r.limit := Int.toNat_of_nonneg (Int.le_of_lt hlimit)
  have hs : Decimal.isInt64 (r.limit.toNat : Nat) := hsize.symm ▸ isInt64_limit hdefault hr
  exact ⟨fun hallows => ⟨_, ofUrl_pageUrl hr hallows hsize hs hn, rfl⟩,
    ofUrl_pageUrl_eq_error hr hs hn⟩

end PageRequest

open PageRequest (ofUrl)

variable {settings : PageSettings} {address : String} {r : PageRequest}

/-- A link to the next page is accepted if the offset it carries is within the bound of the
    settings, and refused for this offset if not. A link to the previous page that carries an offset
    is accepted, and one without an offset is if the default offset is within the bound. Whatever
    link is accepted, it asks for the same pages as the request. An offset has to fit a machine word
    to be read at all. -/
theorem links_followed (hdefault : Decimal.isInt64 settings.defaultLimit)
    (hr : ofUrl settings address = .ok r) :
    (∀ count u, count ≤ maxCount → r.next? count = some u → Decimal.isInt64 r.offsetBehind →
      (settings.Allows r.offsetBehind →
        ∃ r', ofUrl settings u = .ok r' ∧ r'.offset = r.offsetBehind) ∧
      (¬ settings.Allows r.offsetBehind →
        ofUrl settings u = .error (.invalidOffset (numberText r.offsetBehind)))) ∧
    (∀ u, r.prev? = some u →
      (∀ n, r.offsetBefore? = some n → Decimal.isInt64 n →
        ∃ r', ofUrl settings u = .ok r' ∧ r'.offset = n) ∧
      (r.offsetBefore? = none → settings.Allows settings.defaultOffset →
        ∃ r', ofUrl settings u = .ok r')) ∧
    ∀ count u r', r.next? count = some u ∨ r.prev? = some u → ofUrl settings u = .ok r' →
      r.SamePages r' := by
  refine ⟨fun count u => PageRequest.ofUrl_next? hdefault hr, fun u hprev => ?_,
    fun count u r' => PageRequest.samePages_of_link hr⟩
  obtain rfl := PageRequest.eq_of_prev? hprev
  constructor
  · intro n hbefore hn
    rw [hbefore]
    exact ⟨_, PageRequest.ofUrl_offsetBefore hdefault hr hbefore hn, rfl⟩
  · intro hbefore hallows
    rw [hbefore]
    exact ⟨_, PageRequest.ofUrl_erase hallows hr⟩

/-- With a bound of twenty, the next link of `offset=12&limit=5` is accepted and that behind it is
    refused; the previous link of `offset=5&limit=5` is accepted without an offset. -/
theorem links_followed_bound_of_twenty :
    let settings : PageSettings := { maxOffset? := some 20 }
    (∃ r r', ofUrl settings "/r?offset=12&limit=5&filter=a%3Aeq%3A1" = .ok r ∧
      ofUrl settings "/r?offset=17&limit=5&filter=a%3Aeq%3A1" = .ok r' ∧ r.SamePages r' ∧
      ofUrl settings "/r?offset=22&limit=5&filter=a%3Aeq%3A1" = .error (.invalidOffset "22")) ∧
    ∃ r', ofUrl settings "/r?limit=5" = .ok r' := by
  intro settings
  have hdefault : Decimal.isInt64 settings.defaultLimit := by decide
  have hallows : ∀ n, settings.Allows n ↔ n ≤ 20 := fun n => by simp [PageSettings.Allows, settings]
  let request (offset : Nat) (raw : String) : PageRequest :=
    ⟨⟨"/r", [("offset", raw), ("limit", "5"), ("filter", "a:eq:1")]⟩, offset, 5, "", .descending,
      some "a:eq:1"⟩
  have hr : ofUrl settings "/r?offset=12&limit=5&filter=a%3Aeq%3A1" = .ok (request 12 "12") := by
    decide +kernel
  have hr' : ofUrl settings "/r?offset=17&limit=5&filter=a%3Aeq%3A1" = .ok (request 17 "17") := by
    decide +kernel
  let first : PageRequest :=
    ⟨⟨"/r", [("offset", "5"), ("limit", "5")]⟩, 5, 5, "", .descending, none⟩
  have hfirst : ofUrl settings "/r?offset=5&limit=5" = .ok first := by decide +kernel
  have hlink : (request 12 "12").next? 30 = some "/r?offset=17&limit=5&filter=a%3Aeq%3A1" := by
    decide +kernel
  have hlink' : (request 17 "17").next? 30 = some "/r?offset=22&limit=5&filter=a%3Aeq%3A1" := by
    decide +kernel
  have hback : first.prev? = some "/r?limit=5" := by decide +kernel
  obtain ⟨-, -, hsame⟩ := links_followed hdefault hr
  obtain ⟨hnext, -, -⟩ := links_followed hdefault hr'
  obtain ⟨-, hprev, -⟩ := links_followed hdefault hfirst
  have hrefused := (hnext 30 _ (by decide) hlink' (by decide)).2 (by rw [hallows]; decide)
  have hnumber : numberText (request 17 "17").offsetBehind = "22" := by decide +kernel
  rw [hnumber] at hrefused
  have haccepted := (hprev _ hback).2 (by decide) ((hallows _).2 (by decide))
  exact ⟨⟨_, _, hr, hr', hsame 30 _ _ (.inl hlink) hr', hrefused⟩, haccepted⟩

/-- Links that are refused: to a next page beyond the bound, to a next page whose offset does not
    fit a machine word, and to a previous page without an offset if the default is beyond the
    bound. -/
theorem links_refused :
    (let settings : PageSettings := { maxOffset? := some 2 }
      ∃ r u, ofUrl settings "/w?limit=2&offset=2" = .ok r ∧ r.next? 5 = some u ∧
        ofUrl settings u = .error (.invalidOffset "4")) ∧
    (∃ r u, ofUrl {} "/w?limit=1&offset=9223372036854775807" = .ok r ∧
      r.next? maxCount = some u ∧
      ofUrl {} u = .error (.invalidOffset "9223372036854775808")) ∧
    (let settings : PageSettings := { defaultOffset := 3, maxOffset? := some 2 }
      ∃ r u, ofUrl settings "/w?limit=2&offset=1" = .ok r ∧ r.prev? = some u ∧
        ofUrl settings u = .error (.invalidOffset "3")) := by
  refine ⟨⟨⟨⟨"/w", [("limit", "2"), ("offset", "2")]⟩, 2, 2, "", .descending, none⟩,
      "/w?limit=2&offset=4", ?_, ?_, ?_⟩,
    ⟨⟨⟨"/w", [("limit", "1"), ("offset", "9223372036854775807")]⟩, 9223372036854775807, 1, "",
      .descending, none⟩, "/w?limit=1&offset=9223372036854775808", ?_, ?_, ?_⟩,
    ⟨⟨⟨"/w", [("limit", "2"), ("offset", "1")]⟩, 1, 2, "", .descending, none⟩, "/w?limit=2",
      ?_, ?_, ?_⟩⟩
  all_goals decide +kernel

end RowQuery
