import RowQuery.Proofs.Page.Following

/-!
# What a link carries along

The address of another page has the base of the request's address and all its parameters, also
those that occur more than once, and differs in `offset` and `limit` alone.

* `PageRequest.isSome_next?`, `PageRequest.isSome_prev?`: when there is a link;
* `PageRequest.repaged_next?`, `PageRequest.repaged_prev?`, `PageRequest.repaged_prev?_first`: what
  it carries along, and what it changes;
* `links_change_page`: both, for a request whose address has been read.
-/

namespace RowQuery

namespace Url

/-- Two addresses that differ in nothing but their page, and the values of `offset` and `limit` in
    the second one. -/
structure Repaged (u v : Url) (offsets limits : List String) : Prop where
  base : v.base = u.base
  others : v.others ["offset", "limit"] = u.others ["offset", "limit"]
  offsets : v.values "offset" = offsets
  limits : v.values "limit" = limits

end Url

namespace PageRequest

variable {r : PageRequest} {count : Nat}

/-- There is a next page if there are rows behind this one. -/
theorem isSome_next? (hcount : count ≤ maxCount) :
    (r.next? count).isSome = true ↔ 0 < r.limit ∧ r.offset + r.limit < count := by
  by_cases hlimit : 0 < r.limit
  · rw [next?_eq hcount hlimit, Option.isSome_ite]
    omega
  · rw [next?, pageSize?, if_neg hlimit]
    exact iff_of_false Bool.false_ne_true fun h => hlimit h.1

/-- There is a previous page if there are rows in front of this one. -/
theorem isSome_prev? : r.prev?.isSome = true ↔ 0 < r.offset := by
  simp [prev?_eq, Nat.pos_iff_ne_zero]

theorem repaged_pageUrl (hurl : r.url.Plain) (size offset : Nat) :
    r.url.Repaged (Url.parse (r.pageUrl size offset)) [numberText offset] [numberText size] := by
  rw [pageUrl, Url.parse_render ((hurl.set ..).set ..)]
  constructor
  · rfl
  · rw [Url.others_set (by decide), Url.others_set (by decide)]
  · exact Url.values_set_self ..
  · rw [Url.values_set_of_ne _ _ (by decide), Url.values_set_self]

theorem repaged_erase (hurl : r.url.Plain) :
    r.url.Repaged (Url.parse (r.url.erase "offset").render) [] (r.url.values "limit") := by
  rw [Url.parse_render (hurl.erase _)]
  constructor
  · rfl
  · exact Url.others_erase (by decide) _
  · exact Url.values_erase_self ..
  · exact Url.values_erase_of_ne _ (by decide)

/-- A link to the next page carries the offset one page on and the size of the page. -/
theorem repaged_next? (hurl : r.url.Plain) (hcount : count ≤ maxCount) {u : String}
    (h : r.next? count = some u) :
    r.url.Repaged (Url.parse u) [numberText (r.offset + r.limit)] [numberText r.limit] := by
  obtain ⟨hlimit, rfl⟩ := next?_eq_some hcount h
  have hsize : (r.limit.toNat : Int) = r.limit := by omega
  have hoffset : (r.offsetBehind : Int) = r.offset + r.limit := by
    rw [offsetBehind]
    omega
  have hlink := repaged_pageUrl hurl r.limit.toNat r.offsetBehind
  rwa [hoffset, hsize] at hlink

/-- A link to the previous page carries the offset one page back and the size of the page, if that
    is behind the first row. -/
theorem repaged_prev? (hurl : r.url.Plain) {u : String} (h : r.prev? = some u)
    (hpage : 0 < r.limit ∧ r.limit < r.offset) :
    r.url.Repaged (Url.parse u) [numberText (r.offset - r.limit)] [numberText r.limit] := by
  have hbefore : r.offsetBefore? = some (r.offset - r.limit.toNat) := if_pos hpage
  have hsize : (r.limit.toNat : Int) = r.limit := by omega
  have hoffset : ((r.offset - r.limit.toNat : Nat) : Int) = r.offset - r.limit := by omega
  have hlink := repaged_pageUrl hurl r.limit.toNat (r.offset - r.limit.toNat)
  rw [hoffset, hsize] at hlink
  obtain rfl := eq_of_prev? h
  rwa [hbefore]

/-- A link to a page that begins with the first row carries no offset. -/
theorem repaged_prev?_first (hurl : r.url.Plain) {u : String} (h : r.prev? = some u)
    (hpage : ¬ (0 < r.limit ∧ r.limit < r.offset)) :
    r.url.Repaged (Url.parse u) [] (r.url.values "limit") := by
  have hbefore : r.offsetBefore? = none := if_neg hpage
  obtain rfl := eq_of_prev? h
  rw [hbefore]
  exact repaged_erase hurl

end PageRequest

variable {r : PageRequest} {address : String} {count : Nat}

/-- A request whose address has been read has a link to the next page if its page has a size and
    there are rows behind it, and one to the previous page if there are rows in front of it. A link
    has the base of the address and all its parameters but `offset` and `limit`. A link to the next
    page has these two once, with the offset one page on and the size of the page. So has a link to
    the previous page, with the offset one page back, if that is behind the first row; else it has
    no offset and the limits of the address. -/
theorem links_change_page (hurl : r.url = Url.parse address) (hcount : count ≤ maxCount) :
    ((r.next? count).isSome = true ↔ 0 < r.limit ∧ r.offset + r.limit < count) ∧
    (r.prev?.isSome = true ↔ 0 < r.offset) ∧
    (∀ u, r.next? count = some u → r.url.Repaged (Url.parse u)
      [numberText (r.offset + r.limit)] [numberText r.limit]) ∧
    ∀ u, r.prev? = some u →
      (0 < r.limit ∧ r.limit < r.offset → r.url.Repaged (Url.parse u)
        [numberText (r.offset - r.limit)] [numberText r.limit]) ∧
      (¬ (0 < r.limit ∧ r.limit < r.offset) → r.url.Repaged (Url.parse u)
        [] (r.url.values "limit")) := by
  have hplain : r.url.Plain := hurl ▸ Url.plain_parse address
  exact ⟨PageRequest.isSome_next? hcount, PageRequest.isSome_prev?,
    fun u => PageRequest.repaged_next? hplain hcount,
    fun u h => ⟨PageRequest.repaged_prev? hplain h, PageRequest.repaged_prev?_first hplain h⟩⟩

/-- Near the greatest count, under an address that repeats its parameters and asks for a page that
    is not the request's; and for all rows, under the same address. -/
theorem links_change_page_repeated :
    let address := "/r?offset=9&a=1&limit=5&offset=7&a=2&limit=x"
    let url := Url.parse address
    let r : PageRequest := ⟨url, 18446744073709551610, 4, "", .descending, none⟩
    let all : PageRequest := { r with limit := -1 }
    (∃ u, r.next? maxCount = some u ∧
      url.Repaged (Url.parse u) ["18446744073709551614"] ["4"]) ∧
    (∃ u, r.prev? = some u ∧ url.Repaged (Url.parse u) ["18446744073709551606"] ["4"]) ∧
    all.next? maxCount = none ∧
    ∃ u, all.prev? = some u ∧ url.Repaged (Url.parse u) [] ["5", "x"] := by
  intro address url r all
  have hon : numberText (r.offset + r.limit) = "18446744073709551614" := by decide +kernel
  have hback : numberText (r.offset - r.limit) = "18446744073709551606" := by decide +kernel
  have hsize : numberText r.limit = "4" := by decide +kernel
  have hlimits : url.values "limit" = ["5", "x"] := by decide +kernel
  have hurl : r.url = Url.parse address := rfl
  have hurl' : all.url = Url.parse address := rfl
  obtain ⟨hnext, hprev, hlinkNext, hlinkPrev⟩ := links_change_page hurl (Nat.le_refl maxCount)
  obtain ⟨hnext', hprev', -, hlinkPrev'⟩ := links_change_page hurl' (Nat.le_refl maxCount)
  obtain ⟨u, hu⟩ := Option.isSome_iff_exists.1 (hnext.2 ⟨by decide, by decide⟩)
  obtain ⟨v, hv⟩ := Option.isSome_iff_exists.1 (hprev.2 (by decide))
  obtain ⟨w, hw⟩ := Option.isSome_iff_exists.1 (hprev'.2 (by decide))
  refine ⟨⟨u, hu, ?_⟩, ⟨v, hv, ?_⟩, ?_, w, hw, ?_⟩
  · rw [← hon, ← hsize]
    exact hlinkNext u hu
  · rw [← hback, ← hsize]
    exact (hlinkPrev v hv).1 ⟨by decide, by decide⟩
  · exact Option.not_isSome_iff_eq_none.1 fun h => absurd (hnext'.1 h).1 (by decide)
  · rw [← hlimits]
    exact (hlinkPrev' w hw).2 (by decide)

end RowQuery
