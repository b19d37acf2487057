import Mathlib.Control.Monad.Basic
import RowQuery.Command.Query
import RowQuery.Proofs.Page.Links

/-!
# Options and the address that carries them

A query can give its request by options, and then gets an address made from them, so that the links
on its page lead on. That address is the same request: reading it gives the parameters that the
options gave, so it is accepted or refused as they are, whatever the settings. Texts are decoded as
they were encoded, numbers are written so that they are read again, and a parameter that no option
gives is not in the address.

* `Url.get?_setGiven`: what setting a parameter that may be missing changes;
* `QueryOptions.ofUrl_linkUrl`: the parameters of the address are those of the options;
* `QueryOptions.request_eq_ofUrl`: options make the request of their address.
-/

namespace RowQuery

/-- A parameter that is set if a value is given has that value, and every other keeps its own. -/
theorem Url.get?_setGiven (u : Url) (name other : String) (value? : Option String) :
    (u.setGiven name value?).get? other =
      if other = name then value?.or (u.get? other) else u.get? other := by
  cases value? with
  | none => simp [setGiven]
  | some value =>
    by_cases h : other = name
    · rw [if_pos h, h]
      exact get?_set_self u name value
    · rw [if_neg h]
      exact get?_set_of_ne u value h

theorem Url.Plain.setGiven {u : Url} (hu : u.Plain) (name : String) (value? : Option String) :
    (u.setGiven name value?).Plain := by
  cases value? with
  | none => exact hu
  | some value => exact hu.set name value

namespace QueryOptions

variable {p : PageParameters}

theorem plain_linkUrl (p : PageParameters) : (linkUrl p).Plain :=
  .setGiven (.setGiven (.setGiven (.setGiven (.setGiven (Url.plain_parse "/") ..) ..) ..) ..) ..

/-- The text of a truth value in an address. -/
theorem readFlag?_text (b : Bool) : readFlag? (if b then "true" else "false") = some b := by
  cases b <;> decide

/-- The parameters of the address are those it was made for. -/
theorem ofUrl_linkUrl (hoffset : ∀ i ∈ p.offset?, Decimal.isInt64 i = true)
    (hlimit : ∀ i ∈ p.limit?, Decimal.isInt64 i = true) :
    PageParameters.ofUrl (linkUrl p) = .ok p := by
  have hbase (name : String) : (Url.parse "/").get? name = none := rfl
  have hnumber {i? : Option Int} (h : ∀ i ∈ i?, Decimal.isInt64 i = true) :
      (i?.map numberText).map (fun s => Decimal.readInt64? (Text.trim s.toList)) =
        i?.map some := by
    cases i? with
    | none => rfl
    | some i => exact congrArg some (readInt64?_numberText (h i rfl))
  have hflag : (p.descending?.map fun b => if b then "true" else "false").map readFlag? =
      p.descending?.map some := by
    cases p.descending? with
    | none => rfl
    | some b => exact congrArg some (readFlag?_text b)
  refine PageParameters.ofUrl_eq_ok.2 ?_
  simp only [linkUrl, Url.get?_setGiven, hbase, Option.or_none, String.reduceEq, if_true, if_false]
  exact ⟨hnumber hoffset, hnumber hlimit, hflag, trivial, trivial⟩

/-- Options make the same request as the address made from them, or are refused for the same
    reason. -/
theorem request_eq_ofUrl (q : QueryOptions) (settings : PageSettings) (hurl : q.url? = none)
    (hoffset : ∀ i ∈ q.offset?, Decimal.isInt64 i = true)
    (hlimit : ∀ i ∈ q.limit?, Decimal.isInt64 i = true) :
    q.request settings = PageRequest.ofUrl settings (linkUrl q.parameters).render := by
  have hparameters : PageParameters.ofUrl (linkUrl q.parameters) = .ok q.parameters :=
    ofUrl_linkUrl hoffset hlimit
  rw [request, hurl]
  show PageRequest.build settings (Url.parse (linkUrl q.parameters).render) q.parameters = _
  rw [PageRequest.ofUrl, Url.parse_render (plain_linkUrl _), hparameters]
  rfl

/-- Texts that have to be encoded, an empty one, and a negative number. -/
theorem request_eq_ofUrl_encoded :
    let filter := "&é"
    let q : QueryOptions :=
      { data := "d", filter? := some filter, sort? := some "", ascending := true
        offset? := some 3, limit? := some (-1) }
    let address := "/?filter=%26%C3%A9&sort=&desc=false&offset=3&limit=-1"
    let url : Url := ⟨"/", [("filter", filter), ("sort", ""), ("desc", "false"), ("offset", "3"),
      ("limit", "-1")]⟩
    (linkUrl q.parameters).render = address ∧
      q.request {} = .ok ⟨url, 3, -1, "", .ascending, some filter⟩ := by
  intro filter q address url
  have hrender : (linkUrl q.parameters).render = address := by decide +kernel
  have hread : PageRequest.ofUrl {} address = .ok ⟨url, 3, -1, "", .ascending, some filter⟩ := by
    decide +kernel
  have hsame := request_eq_ofUrl q {} rfl (fun i hi => Option.some.inj hi ▸ by decide)
    fun i hi => Option.some.inj hi ▸ by decide
  rw [hrender, hread] at hsame
  exact ⟨hrender, hsame⟩

end QueryOptions

end RowQuery
