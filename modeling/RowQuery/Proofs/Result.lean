/-!
# Results of computations that may fail

A computation in `Except` that has come to a result has done so at every step. These lemmas take
such a computation apart, and say what a loop in it keeps.

* `bind_eq_ok`, `map_eq_ok`: a sequence of two steps;
* `mapM_cons_eq_ok`, `mapM_append_eq_ok`: the first step of a `mapM`, and its first steps;
* `mapM_map_eq_ok`: a change that no step notices;
* `exists_mapM_eq_ok`, `mapM_eq_error_iff`: when it comes to a result, and why if not;
* `forall_mem_of_mapM`, `map_eq_of_mapM`, `length_of_mapM`: what its results are like;
* `foldlM_rel`: a relation between the states of a loop and those of a loop that cannot fail.
-/

namespace RowQuery

variable {α β γ ε : Type}

theorem bind_eq_ok {x : Except ε α} {f : α → Except ε β} {b : β} :
    (x >>= f) = .ok b ↔ ∃ a, x = .ok a ∧ f a = .ok b := by
  cases x with
  | error e => exact ⟨nofun, nofun⟩
  | ok a => exact ⟨fun h => ⟨a, rfl, h⟩, fun ⟨_, h, h'⟩ => (Except.ok.inj h).symm ▸ h'⟩

theorem map_eq_ok {x : Except ε α} {f : α → β} {b : β} :
    x.map f = .ok b ↔ ∃ a, x = .ok a ∧ f a = b := by
  cases x with
  | error e => exact ⟨nofun, nofun⟩
  | ok a =>
    refine ⟨fun h => ⟨a, rfl, Except.ok.inj h⟩, fun ⟨_, h, h'⟩ => ?_⟩
    cases h
    exact congrArg Except.ok h'

theorem mapError_ok {ε' : Type} (a : α) (f : ε → ε') :
    (Except.ok a : Except ε α).mapError f = .ok a :=
  rfl

theorem mapError_eq_ok {ε' : Type} {x : Except ε α} {f : ε → ε'} {a : α} :
    x.mapError f = .ok a ↔ x = .ok a := by
  cases x with
  | error e => exact ⟨nofun, nofun⟩
  | ok b => exact ⟨fun h => congrArg Except.ok (Except.ok.inj h), congrArg (Except.mapError f)⟩

theorem mapM_cons_eq_ok {f : α → Except ε β} {a : α} {as : List α} {bs : List β} :
    (a :: as).mapM f = .ok bs ↔ ∃ b bs', f a = .ok b ∧ as.mapM f = .ok bs' ∧ bs = b :: bs' := by
  rw [List.mapM_cons, bind_eq_ok]
  refine exists_congr fun b => ?_
  rw [bind_eq_ok]
  constructor
  · rintro ⟨hb, bs', hbs, h⟩
    exact ⟨bs', hb, hbs, (Except.ok.inj h).symm⟩
  · rintro ⟨bs', hb, hbs, rfl⟩
    exact ⟨hb, bs', hbs, rfl⟩

theorem mapM_append_eq_ok {f : α → Except ε β} {as as' : List α} {bs : List β} :
    (as ++ as').mapM f = .ok bs ↔
      ∃ cs ds, as.mapM f = .ok cs ∧ as'.mapM f = .ok ds ∧ bs = cs ++ ds := by
  rw [List.mapM_append, bind_eq_ok]
  refine exists_congr fun cs => ?_
  rw [bind_eq_ok]
  constructor
  · rintro ⟨hcs, ds, hds, h⟩
    exact ⟨ds, hcs, hds, (Except.ok.inj h).symm⟩
  · rintro ⟨ds, hcs, hds, rfl⟩
    exact ⟨hcs, ds, hds, rfl⟩

/-- A loop comes to a result if every step does. -/
theorem exists_mapM_eq_ok {f : α → Except ε β} {as : List α} :
    (∃ bs, as.mapM f = .ok bs) ↔ ∀ a ∈ as, ∃ b, f a = .ok b := by
  induction as with
  | nil => exact iff_of_true ⟨[], rfl⟩ (List.forall_mem_nil _)
  | cons a as ih =>
    rw [List.forall_mem_cons, ← ih]
    constructor
    · rintro ⟨bs, h⟩
      obtain ⟨b, bs', hb, hbs, -⟩ := mapM_cons_eq_ok.1 h
      exact ⟨⟨b, hb⟩, bs', hbs⟩
    · rintro ⟨⟨b, hb⟩, bs', hbs⟩
      exact ⟨b :: bs', mapM_cons_eq_ok.2 ⟨b, bs', hb, hbs, rfl⟩⟩

/-- A loop fails as the first step does that fails. -/
theorem mapM_eq_error_iff {f : α → Except ε β} {as : List α} {e : ε} :
    as.mapM f = .error e ↔ ∃ a, as.find? (fun a => !(f a).isOk) = some a ∧ f a = .error e := by
  induction as with
  | nil => exact ⟨nofun, nofun⟩
  | cons a as ih =>
    rw [List.mapM_cons, List.find?_cons]
    cases ha : f a with
    | error e' =>
      constructor
      · intro h
        cases h
        exact ⟨a, rfl, ha⟩
      · rintro ⟨b, hb, he⟩
        cases hb
        rw [ha] at he
        cases he
        rfl
    | ok b =>
      refine Iff.trans ?_ ih
      show (as.mapM f >>= fun bs => pure (b :: bs)) = _ ↔ _
      cases as.mapM f with
      | error e' => exact Iff.rfl
      | ok bs => exact ⟨nofun, nofun⟩

theorem exists_mem_of_mapM_eq_error {f : α → Except ε β} {as : List α} {e : ε}
    (h : as.mapM f = .error e) : ∃ a ∈ as, f a = .error e := by
  obtain ⟨a, ha, he⟩ := mapM_eq_error_iff.1 h
  exact ⟨a, List.mem_of_find?_eq_some ha, he⟩

/-- A change of the arguments that leaves the result of every step leaves the results. -/
theorem mapM_map_eq_ok {f : α → Except ε β} {g : α → α}
    (step : ∀ a b, f a = .ok b → f (g a) = .ok b) {as : List α} {bs : List β}
    (h : as.mapM f = .ok bs) : (as.map g).mapM f = .ok bs := by
  induction as generalizing bs with
  | nil => exact h
  | cons a as ih =>
    obtain ⟨b, bs', hb, hbs, rfl⟩ := mapM_cons_eq_ok.1 h
    exact mapM_cons_eq_ok.2 ⟨b, bs', step a b hb, ih hbs, rfl⟩

/-- What every result of a step has in common holds of all of them. -/
theorem forall_mem_of_mapM {P : β → Prop} {f : α → Except ε β} (step : ∀ a b, f a = .ok b → P b)
    {as : List α} {bs : List β} (h : as.mapM f = .ok bs) : ∀ b ∈ bs, P b := by
  induction as generalizing bs with
  | nil =>
    cases h
    exact fun _ hb => absurd hb List.not_mem_nil
  | cons a as ih =>
    obtain ⟨b, bs', hb, hbs, rfl⟩ := mapM_cons_eq_ok.1 h
    exact List.forall_mem_cons.2 ⟨step a b hb, ih hbs⟩

/-- What can be read off the results step by step can be read off the list. -/
theorem map_eq_of_mapM {r : β → γ} {s : α → γ} {f : α → Except ε β}
    (step : ∀ a b, f a = .ok b → r b = s a) {as : List α} {bs : List β}
    (h : as.mapM f = .ok bs) : bs.map r = as.map s := by
  induction as generalizing bs with
  | nil =>
    cases h
    rfl
  | cons a as ih =>
    obtain ⟨b, bs', hb, hbs, rfl⟩ := mapM_cons_eq_ok.1 h
    rw [List.map_cons, List.map_cons, step a b hb, ih hbs]

theorem length_of_mapM {f : α → Except ε β} {as : List α} {bs : List β}
    (h : as.mapM f = .ok bs) : bs.length = as.length := by
  induction as generalizing bs with
  | nil =>
    cases h
    rfl
  | cons a as ih =>
    obtain ⟨b, bs', -, hbs, rfl⟩ := mapM_cons_eq_ok.1 h
    rw [List.length_cons, List.length_cons, ih hbs]

/-- A relation that every step keeps is kept by the loop. -/
theorem foldlM_rel {R : β → γ → Prop} {f : β → α → Except ε β} {g : γ → α → γ}
    (step : ∀ b c a b', R b c → f b a = .ok b' → R b' (g c a)) {as : List α} {b b' : β} {c : γ}
    (start : R b c) (h : as.foldlM f b = .ok b') : R b' (as.foldl g c) := by
  induction as generalizing b c with
  | nil =>
    cases h
    exact start
  | cons a as ih =>
    rw [List.foldlM_cons, bind_eq_ok] at h
    obtain ⟨d, hd, h⟩ := h
    exact ih (step b c a d start hd) h

end RowQuery
