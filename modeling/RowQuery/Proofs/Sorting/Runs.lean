import RowQuery.Proofs.Sorting.Merge
import RowQuery.Sorting.Runs

/-!
# Sorting by runs keeps the items

The result is a permutation of the items, whatever `less` is, unless the sort breaks off. For the
pass over the runs the invariant is that the run in hand, the runs on the stack and the items to
come make up the list. There are as many steps to spend as items, and every run takes one item at
least.

* `joinRuns?_perm`: the invariant of the pass over the runs;
* `byRuns?_perm`, `byPartition?_perm`: both ways to sort a long list;
* `sort?_perm`: the sort of any list.
-/

namespace RowQuery.Sorting

variable {α : Type} {less : α → α → Bool}

/-! ## Runs -/

theorem madeOfFirst_firstRun (items : List α) : MadeOfFirst (firstRun less items) items := by
  rw [firstRun.eq_def]
  split
  · rename_i a b rest
    have hrun : MadeOfFirst (a :: b :: rest.take (runLength less (less b a) b rest))
        (a :: b :: rest) :=
      ((madeOfFirst_take _ rest).cons b).cons a
    simp only
    split
    · rw [MadeOfFirst, List.length_reverse]
      exact (List.reverse_perm _).trans hrun
    · exact hrun
  · rw [MadeOfFirst, List.take_length]

theorem firstRun_ne_nil {items : List α} (h : items ≠ []) : firstRun less items ≠ [] := by
  rw [firstRun.eq_def]
  split
  · simp only
    split
    · simp
    · nofun
  · exact h

/-- The next run is made of the first items. -/
theorem madeOfFirst_next? {good : Nat} {eager : Bool} {items : List α} {r : Run α}
    (h : Run.next? less good eager items = some r) : MadeOfFirst r.items items := by
  rw [Run.next?] at h
  split at h
  · rw [← Option.some.inj h]
    exact madeOfFirst_firstRun items
  · split at h
    · obtain ⟨out, hshort, h⟩ := Option.bind_eq_some_iff.1 h
      have hperm := sortShort?_perm less hshort
      rw [← Option.some.inj h, MadeOfFirst, hperm.length_eq]
      exact hperm.trans (madeOfFirst_take shortLength items)
    · rw [← Option.some.inj h]
      exact madeOfFirst_take good items

/-- The next run takes an item at least. -/
theorem ne_nil_of_next? {good : Nat} (hgood : 0 < good) {eager : Bool} {items : List α} {r : Run α}
    (hne : items ≠ []) (h : Run.next? less good eager items = some r) : r.items ≠ [] := by
  have htake : ∀ {n : Nat}, 0 < n → items.take n ≠ [] := by
    intro n hn
    cases items with
    | nil => exact absurd rfl hne
    | cons a rest =>
      cases n with
      | zero => cases hn
      | succ n => nofun
  rw [Run.next?] at h
  split at h
  · rw [← Option.some.inj h]
    exact firstRun_ne_nil hne
  · split at h
    · obtain ⟨out, hshort, h⟩ := Option.bind_eq_some_iff.1 h
      have hperm := sortShort?_perm less hshort
      rw [← Option.some.inj h]
      rintro rfl
      exact htake (by decide) (List.nil_perm.1 hperm)
    · rw [← Option.some.inj h]
      exact htake hgood

variable {sort? : List α → Option (List α)}

theorem Run.sort?_perm (hsort : Permutes sort?) {r : Run α} {out : List α}
    (h : r.sort? sort? = some out) : out.Perm r.items := by
  rw [Run.sort?] at h
  split at h
  · rw [← Option.some.inj h]
  · exact hsort h

theorem Run.join?_perm (hsort : Permutes sort?) {left right r : Run α}
    (h : Run.join? less sort? left right = some r) : r.items.Perm (left.items ++ right.items) := by
  rw [Run.join?] at h
  split at h
  · obtain ⟨before, hleft, h⟩ := Option.bind_eq_some_iff.1 h
    obtain ⟨behind, hright, h⟩ := Option.bind_eq_some_iff.1 h
    rw [← Option.some.inj h]
    exact (merge_perm less _ _).trans
      ((Run.sort?_perm hsort hleft).append (Run.sort?_perm hsort hright))
  · rw [← Option.some.inj h]

/-- The items of the runs on a stack. -/
def stackItems (stack : List (Run α × Nat)) : List α :=
  stack.flatMap fun e => e.1.items

section Joining

variable {join? : Run α → Run α → Option (Run α)}
  (hjoin : ∀ {left right r}, join? left right = some r → r.items.Perm (left.items ++ right.items))

include hjoin in
theorem collapse?_perm {depth : Nat} {last joined : Run α} {stack rest : List (Run α × Nat)}
    (h : collapse? join? depth last stack = some (joined, rest)) :
    (joined.items ++ stackItems rest).Perm (last.items ++ stackItems stack) := by
  induction stack generalizing last with
  | nil =>
    obtain ⟨rfl, rfl⟩ := Prod.mk.inj (Option.some.inj h)
    exact .refl _
  | cons e stack ih =>
    obtain ⟨r, d⟩ := e
    rw [collapse?] at h
    split at h
    · obtain ⟨l, hl, h⟩ := Option.bind_eq_some_iff.1 h
      refine (ih h).trans (((hjoin hl).append_right _).trans ?_)
      exact (List.perm_append_comm.append_right _).trans (.of_eq (List.append_assoc ..))
    · obtain ⟨rfl, rfl⟩ := Prod.mk.inj (Option.some.inj h)
      exact .refl _

/-- All runs meet at depth zero. -/
theorem collapse?_zero {last joined : Run α} {stack rest : List (Run α × Nat)}
    (h : collapse? join? 0 last stack = some (joined, rest)) : rest = [] := by
  induction stack generalizing last with
  | nil => exact (Prod.mk.inj (Option.some.inj h)).2.symm
  | cons e stack ih =>
    obtain ⟨l, -, h⟩ := Option.bind_eq_some_iff.1 h
    exact ih h

include hjoin in
/-- The invariant of the pass over the runs. -/
theorem joinRuns?_perm {next? : List α → Option (Run α)}
    (hnext : ∀ {items r}, next? items = some r → MadeOfFirst r.items items)
    (hprogress : ∀ {items r}, items ≠ [] → next? items = some r → r.items ≠ [])
    {whole fuel start : Nat} {items : List α} {last r : Run α} {stack : List (Run α × Nat)}
    (hfuel : items.length ≤ fuel)
    (h : joinRuns? next? join? whole fuel start items last stack = some r) :
    r.items.Perm (last.items ++ stackItems stack ++ items) := by
  have hdone : ∀ {last : Run α} {stack : List (Run α × Nat)},
      (collapse? join? 0 last stack).map (·.1) = some r →
        r.items.Perm (last.items ++ stackItems stack) := by
    intro last stack h
    obtain ⟨⟨joined, rest⟩, hc, rfl⟩ := Option.map_eq_some_iff.1 h
    have := collapse?_perm hjoin hc
    rwa [collapse?_zero hc, stackItems, List.flatMap_nil, List.append_nil] at this
  induction fuel generalizing start items last stack with
  | zero =>
    obtain rfl : items = [] := List.eq_nil_of_length_eq_zero (Nat.le_zero.1 hfuel)
    rw [List.append_nil]
    exact hdone h
  | succ fuel ih =>
    cases items with
    | nil =>
      rw [List.append_nil]
      exact hdone h
    | cons a rest =>
      obtain ⟨s, hs, h⟩ := Option.bind_eq_some_iff.1 h
      obtain ⟨⟨joined, stack'⟩, hc, h⟩ := Option.bind_eq_some_iff.1 h
      refine (ih ?_ h).trans ?_
      · have : 0 < s.items.length := List.length_pos_iff.2 (hprogress (List.cons_ne_nil a rest) hs)
        simp only [List.length_drop, List.length_cons] at hfuel ⊢
        omega
      · -- What was in hand and on the stack is on the stack, and the next run is in hand.
        show (s.items ++ (joined.items ++ stackItems stack') ++ _).Perm _
        refine (List.perm_append_comm.append_right _).trans ?_
        rw [List.append_assoc]
        exact (collapse?_perm hjoin hc).append (hnext hs).perm

end Joining

theorem goodLength_pos {whole : Nat} (h : 0 < whole) : 0 < goodLength whole := by
  rw [goodLength]
  split
  · omega
  · rename_i hlong
    have hlog : 1 ≤ whole.log2 := (Nat.le_log2 (by omega)).2 (by omega)
    have hshift : 1 ≤ (1 + whole.log2) / 2 := by omega
    have hpower : 2 ^ 1 ≤ 1 <<< ((1 + whole.log2) / 2) := by
      rw [Nat.one_shiftLeft]
      exact Nat.pow_le_pow_right (by decide) hshift
    exact Nat.div_pos (Nat.le_add_right_of_le hpower) (by decide)

theorem byRuns?_perm (less : α → α → Bool) (eager : Bool) (hsort : Permutes sort?) :
    Permutes (byRuns? less eager sort?) := by
  intro items out h
  cases items with
  | nil =>
    obtain rfl : [] = out := by
      simpa [byRuns?, Run.next?, firstRun, goodLength, joinRuns?, collapse?, Run.sort?] using h
    exact .refl []
  | cons a rest =>
    obtain ⟨first, hfirst, h⟩ := Option.bind_eq_some_iff.1 h
    obtain ⟨whole, hwhole, h⟩ := Option.bind_eq_some_iff.1 h
    have hfuel : ((a :: rest).drop first.items.length).length ≤ (a :: rest).length := by
      rw [List.length_drop]
      exact Nat.sub_le ..
    have hjoined := joinRuns?_perm (Run.join?_perm hsort) madeOfFirst_next?
      (ne_nil_of_next? (goodLength_pos (Nat.succ_pos _))) hfuel hwhole
    rw [stackItems, List.flatMap_nil, List.append_nil] at hjoined
    exact (Run.sort?_perm hsort h).trans (hjoined.trans (madeOfFirst_next? hfirst).perm)

/-! ## Partition -/

theorem partitionAt_perm (place : Nat) (placeHolds : Bool) (test : α → Bool) (items : List α) :
    ((partitionAt place placeHolds test items).1 ++
      (partitionAt place placeHolds test items).2).Perm items := by
  rw [partitionAt, List.partition_eq_filter_filter]
  have hmap := (List.filter_append_perm
    (fun e : α × Nat => if e.2 = place then placeHolds else test e.1) items.zipIdx).map Prod.fst
  rw [List.map_append, List.zipIdx_map_fst] at hmap
  exact hmap

theorem byPartition?_perm (less : α → α → Bool) (fuel limit : Nat) (above? : Option α) :
    Permutes (byPartition? less fuel limit above?) := by
  have hlimit : Permutes fun items : List α =>
      if items.length ≤ shortLength then sortShort? less items
      else byRuns? less true some items := by
    intro items out h
    simp only at h
    split at h
    · exact sortShort?_perm less h
    · exact byRuns?_perm less true (fun _ _ h => .of_eq (Option.some.inj h).symm) h
  intro items out h
  induction fuel generalizing limit above? items out with
  | zero =>
    rw [byPartition?] at h
    · exact hlimit h
    · nofun
  | succ fuel ih =>
    cases limit with
    | zero =>
      rw [byPartition?] at h
      · exact hlimit h
      · nofun
    | succ limit =>
      rw [byPartition?] at h
      split at h
      · exact sortShort?_perm less h
      · simp only at h
        split at h
        · rw [← Option.some.inj h]
          exact insertion_perm less items
        · rename_i pivot _
          -- The pivot is put aside with its equals, or stands in front of the right part.
          split at h
          · obtain ⟨rest, hrest, h⟩ := Option.bind_eq_some_iff.1 h
            rw [← Option.some.inj h]
            exact ((ih _ none hrest).append_left _).trans (partitionAt_perm ..)
          · obtain ⟨front, hfront, h⟩ := Option.bind_eq_some_iff.1 h
            obtain ⟨back, hback, h⟩ := Option.bind_eq_some_iff.1 h
            rw [← Option.some.inj h]
            exact ((ih _ above? hfront).append (ih _ (some pivot) hback)).trans
              (partitionAt_perm ..)

theorem sort?_perm (less : α → α → Bool) : Permutes (Sorting.sort? less) := by
  intro items out h
  rw [Sorting.sort?] at h
  split at h
  · rw [← Option.some.inj h]
    exact insertion_perm less items
  · exact byRuns?_perm less _ (fun _ _ h => byPartition?_perm less _ _ none h) h

end RowQuery.Sorting
