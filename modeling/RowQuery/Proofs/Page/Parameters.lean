import Mathlib.Data.List.Basic
import RowQuery.Proofs.Page.Address

/-!
# Laws of parameters

The parameters of an address are a list, in which a name may occur any number of times, and setting
one is a single pass over it. What the pass comes to is said here without following it: the
parameter has the value given and no other, at the place where the name stood first or else at the
end, and all other parameters are as they were. There is only one address of which all this is true
(`Url.updated_iff`), so nothing is left open that a caller could be surprised by.

* `Url.set_set`, `Url.erase_set`: what is set is overwritten by setting it again, and undone by
  leaving it out;
* `Url.set_comm_iff`: two parameters may be set in either order, unless both are new;
* `Url.set_laws`: all laws together.
-/

namespace RowQuery.Url

variable {u v : Url} {name other value value' : String} {ps qs : List (String × String)}

/-- The names of all parameters, in order, as often as they occur. -/
def names (u : Url) : List String :=
  u.parameters.map (·.1)

/-- An address `v` is `u` with a parameter updated. The place of a name that does not occur is
    behind all others. -/
structure Updated (u v : Url) (name value : String) : Prop where
  base : v.base = u.base
  values : v.values name = [value]
  place : v.names.idxOf name = u.names.idxOf name
  others : v.others [name] = u.others [name]

/-! ## Setting a parameter is updating it -/

/-- Setting a parameter leaves its name at its first place, or brings it to the end. -/
theorem idxOf_setIn (name value : String) (ps : List (String × String)) :
    ((setIn name value ps).map (·.1)).idxOf name = (ps.map (·.1)).idxOf name := by
  induction ps with
  | nil => simp [setIn]
  | cons p ps ih =>
    rw [setIn]
    split
    · rename_i hp
      rw [List.map_cons, List.map_cons, hp, List.idxOf_cons_self, List.idxOf_cons_self]
    · rename_i hp
      rw [List.map_cons, List.map_cons, List.idxOf_cons_ne _ hp, List.idxOf_cons_ne _ hp, ih]

theorem updated_set (u : Url) (name value : String) : u.Updated (u.set name value) name value where
  base := rfl
  values := values_set_self u name value
  place := idxOf_setIn name value u.parameters
  others := others_set (List.mem_singleton_self name) u value

/-- Parameters are known by the only value of one of them, its place, and all others. -/
theorem eq_of_place (hp : (ps.filter (·.1 = name)).map (·.2) = [value])
    (hq : (qs.filter (·.1 = name)).map (·.2) = [value])
    (hplace : (ps.map (·.1)).idxOf name = (qs.map (·.1)).idxOf name)
    (hothers : ps.filter (·.1 ∉ [name]) = qs.filter (·.1 ∉ [name])) : ps = qs := by
  induction ps generalizing qs with
  | nil => cases hp
  | cons p ps ih =>
    cases qs with
    | nil => cases hq
    | cons q qs =>
      rw [List.map_cons, List.map_cons] at hplace
      by_cases hpn : p.1 = name
      · -- Both lists begin with the parameter, and it does not occur again.
        have hqn : q.1 = name := by
          by_contra hqn
          rw [hpn, List.idxOf_cons_self, List.idxOf_cons_ne _ hqn] at hplace
          cases hplace
        have hrest : ∀ {rs : List (String × String)}, (rs.filter (·.1 = name)).map (·.2) = [] →
            rs.filter (·.1 ∉ [name]) = rs := by
          intro rs hrs
          rw [List.map_eq_nil_iff, List.filter_eq_nil_iff] at hrs
          exact List.filter_eq_self.2 fun r hr => by simpa using hrs r hr
        rw [List.filter_cons_of_pos (by simpa using hpn), List.map_cons, List.cons.injEq] at hp
        rw [List.filter_cons_of_pos (by simpa using hqn), List.map_cons, List.cons.injEq] at hq
        rw [List.filter_cons_of_neg (by simpa using hpn),
          List.filter_cons_of_neg (by simpa using hqn), hrest hp.2, hrest hq.2] at hothers
        rw [hothers, Prod.ext (hpn.trans hqn.symm) (hp.1.trans hq.1.symm)]
      · have hqn : q.1 ≠ name := by
          intro hqn
          rw [hqn, List.idxOf_cons_self, List.idxOf_cons_ne _ hpn] at hplace
          cases hplace
        rw [List.filter_cons_of_neg (by simpa using hpn)] at hp
        rw [List.filter_cons_of_neg (by simpa using hqn)] at hq
        rw [List.idxOf_cons_ne _ hpn, List.idxOf_cons_ne _ hqn] at hplace
        rw [List.filter_cons_of_pos (by simpa using hpn),
          List.filter_cons_of_pos (by simpa using hqn), List.cons.injEq] at hothers
        rw [hothers.1, ih hp hq (Nat.succ.inj hplace) hothers.2]

/-- An address is updated in one way only, and that is by setting the parameter. -/
theorem updated_iff : u.Updated v name value ↔ v = u.set name value := by
  refine ⟨fun h => ?_, fun h => h ▸ updated_set u name value⟩
  have hset := updated_set u name value
  have hparameters : v.parameters = (u.set name value).parameters :=
    eq_of_place h.values hset.values (h.place.trans hset.place.symm)
      (h.others.trans hset.others.symm)
  obtain ⟨base, parameters⟩ := v
  cases h.base
  cases hparameters
  rfl

/-! ## Changes one after another -/

theorem Updated.trans {w : Url} (h : u.Updated v name value) (h' : v.Updated w name value') :
    u.Updated w name value' where
  base := h'.base.trans h.base
  values := h'.values
  place := h'.place.trans h.place
  others := h'.others.trans h.others

/-- Setting a parameter again overwrites it. -/
theorem set_set (u : Url) (name value value' : String) :
    (u.set name value).set name value' = u.set name value' :=
  updated_iff.1 ((updated_set u name value).trans (updated_set _ name value'))

/-- What is left without a parameter are the others. -/
theorem erase_eq (u : Url) (name : String) : u.erase name = ⟨u.base, u.others [name]⟩ := by
  simp [erase, others]

/-- Leaving a parameter out undoes setting it. -/
theorem erase_set (u : Url) (name value : String) :
    (u.set name value).erase name = u.erase name := by
  rw [erase_eq, erase_eq, (updated_set u name value).others, (updated_set u name value).base]

theorem setIn_of_not_mem (h : name ∉ ps.map (·.1)) (value : String) :
    setIn name value ps = ps ++ [(name, value)] := by
  induction ps with
  | nil => rfl
  | cons p ps ih =>
    rw [List.map_cons, List.mem_cons, not_or] at h
    rw [setIn, if_neg (Ne.symm h.1), ih h.2, List.cons_append]

/-- Whether a parameter is set before or after another one is left out makes no difference. -/
theorem filter_setIn_of_ne (h : other ≠ name) (value : String) (ps : List (String × String)) :
    (setIn name value ps).filter (·.1 ≠ other) = setIn name value (ps.filter (·.1 ≠ other)) := by
  induction ps with
  | nil => simp [setIn, h.symm]
  | cons p ps ih =>
    rw [setIn]
    by_cases hp : p.1 = name
    · have hcomm : (ps.filter (·.1 ≠ name)).filter (·.1 ≠ other) =
          (ps.filter (·.1 ≠ other)).filter (·.1 ≠ name) := by
        rw [List.filter_filter, List.filter_filter]
        exact List.filter_congr fun q _ => Bool.and_comm _ _
      rw [if_pos hp, List.filter_cons_of_pos (by simpa using h.symm),
        List.filter_cons_of_pos (by simpa [hp] using h.symm), setIn, if_pos hp, hcomm]
    · rw [if_neg hp]
      by_cases hother : p.1 = other
      · rw [List.filter_cons_of_neg (by simpa using hother),
          List.filter_cons_of_neg (by simpa using hother), ih]
      · rw [List.filter_cons_of_pos (by simpa using hother),
          List.filter_cons_of_pos (by simpa using hother), setIn, if_neg hp, ih]

/-- Two parameters are set in either order, if one of them is there. -/
theorem setIn_comm (hne : other ≠ name) (h : name ∈ ps.map (·.1) ∨ other ∈ ps.map (·.1)) :
    setIn other value' (setIn name value ps) = setIn name value (setIn other value' ps) := by
  induction ps with
  | nil => exact absurd h (by simp)
  | cons p ps ih =>
    by_cases hname : p.1 = name
    · have hother : p.1 ≠ other := fun heq => hne (heq.symm.trans hname)
      rw [setIn, if_pos hname, setIn, if_neg hne.symm, setIn.eq_2 other, if_neg hother, setIn,
        if_pos hname, filter_setIn_of_ne hne.symm]
    by_cases hother : p.1 = other
    · rw [setIn, if_neg hname, setIn, if_pos hother, setIn.eq_2 other, if_pos hother, setIn,
        if_neg hne, filter_setIn_of_ne hne]
    · rw [List.map_cons, List.mem_cons, List.mem_cons] at h
      have hrest := h.imp (Or.resolve_left · (Ne.symm hname)) (Or.resolve_left · (Ne.symm hother))
      rw [setIn, if_neg hname, setIn, if_neg hother, ih hrest, setIn.eq_2 other, if_neg hother,
        setIn, if_neg hname]

/-- Two parameters may be set in either order, unless both are new: then the one that is set first
    stands in front. -/
theorem set_comm_iff (hne : other ≠ name) :
    (u.set name value).set other value' = (u.set other value').set name value ↔
      name ∈ u.names ∨ other ∈ u.names := by
  constructor
  · intro h
    by_contra hnew
    rw [not_or] at hnew
    have hparameters := congrArg parameters h
    simp only [set] at hparameters
    have hother : other ∉ (u.parameters ++ [(name, value)]).map (·.1) := by
      rw [List.map_append, List.mem_append, not_or]
      exact ⟨hnew.2, by simpa using hne⟩
    have hname : name ∉ (u.parameters ++ [(other, value')]).map (·.1) := by
      rw [List.map_append, List.mem_append, not_or]
      exact ⟨hnew.1, by simpa using hne.symm⟩
    rw [setIn_of_not_mem hnew.1, setIn_of_not_mem hnew.2, setIn_of_not_mem hother,
      setIn_of_not_mem hname] at hparameters
    have hlast := List.append_inj_right' hparameters rfl
    exact hne (congrArg Prod.fst (List.cons.inj hlast).1)
  · intro h
    rw [set, set]
    exact congrArg (Url.mk u.base) (setIn_comm hne h)

/-- An address with a parameter set has the value given for it. It has the parameter once, where its
    name stood first or else behind all others, has all other parameters with their values, as
    often and in the order as before, and is the only such address. Setting the parameter again
    overwrites it. Leaving it out leaves exactly the others, also if it has been set before. Another
    parameter may be set before it or after it, unless both are new. -/
theorem set_laws (u : Url) (name value : String) :
    (u.set name value).get? name = some value ∧
    (∀ v, u.Updated v name value ↔ v = u.set name value) ∧
    (∀ value', (u.set name value).set name value' = u.set name value') ∧
    u.erase name = ⟨u.base, u.others [name]⟩ ∧
    (u.set name value).erase name = u.erase name ∧
    ∀ other value', other ≠ name →
      ((u.set name value).set other value' = (u.set other value').set name value ↔
        name ∈ u.names ∨ other ∈ u.names) :=
  ⟨get?_set_self u name value, fun _ => updated_iff, set_set u name value, erase_eq u name,
    erase_set u name value, fun _ _ => set_comm_iff⟩

/-- Of an address that repeats two parameters, set in either order, and of two new ones. -/
theorem set_laws_repeated :
    let u := parse "/u?a=1&b=2&a=3&c=4&b=5"
    u.Updated (u.set "b" "x") "b" "x" ∧
    ((u.set "b" "x").set "a" "y").parameters = [("a", "y"), ("b", "x"), ("c", "4")] ∧
    (u.set "b" "x").set "a" "y" = (u.set "a" "y").set "b" "x" ∧
    (u.set "d" "x").set "e" "y" ≠ (u.set "e" "y").set "d" "x" := by
  intro u
  obtain ⟨-, hupdated, -, -, -, hcomm⟩ := set_laws u "b" "x"
  obtain ⟨-, -, -, -, -, hnew⟩ := set_laws u "d" "x"
  refine ⟨(hupdated _).2 rfl, by decide +kernel, ?_, ?_⟩
  · exact (hcomm "a" "y" (by decide)).2 (.inl (by decide +kernel))
  · exact fun h => absurd ((hnew "e" "y" (by decide)).1 h) (by decide +kernel)

end RowQuery.Url
