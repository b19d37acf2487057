import Mathlib.Data.List.Induction
import RowQuery.Proofs.Sorting.Merge

/-!
# What insertion comes to

If an order tells the items of a list apart consistently, exactly one list holds them in order and
leaves those that are not told apart as they stood, and insertion makes it. An item that is inserted
goes behind those of its kind that are there already, and in front of no item that it need not stand
in front of.

* `filter_insertReversed`, `pairwise_insertReversed`: one item put in;
* `stable_insertion`: the items in order;
* `Stable.unique`, `stable_iff`: there is only one such list.
-/

namespace RowQuery.Sorting

variable {α : Type} {less : α → α → Bool} {items out out' : List α} {a : α}

/-- Whether an order tells items apart consistently: of two, one at most has to stand in front, and
    an item need not stand in front of what comes behind one that it need not stand in front of. -/
structure Consistent (less : α → α → Bool) (items : List α) : Prop where
  asymm : ∀ a ∈ items, ∀ b ∈ items, less a b = true → less b a = false
  trans : ∀ a ∈ items, ∀ b ∈ items, ∀ c ∈ items,
    less a b = false → less b c = false → less a c = false

/-- Whether an order does not tell two items apart. -/
def alike (less : α → α → Bool) (a b : α) : Bool :=
  !less a b && !less b a

/-- Whether a list holds items in order, with those that are not told apart as they stood. -/
structure Stable (less : α → α → Bool) (items out : List α) : Prop where
  perm : out.Perm items
  sorted : out.Pairwise fun a b => less b a = false
  keeps : ∀ a ∈ items, out.filter (alike less a) = items.filter (alike less a)

namespace Consistent

theorem subset (h : Consistent less items) (hsub : out ⊆ items) : Consistent less out where
  asymm a ha b hb := h.asymm a (hsub ha) b (hsub hb)
  trans a ha b hb c hc := h.trans a (hsub ha) b (hsub hb) c (hsub hc)

theorem irrefl (h : Consistent less items) (ha : a ∈ items) : less a a = false := by
  cases haa : less a a with
  | false => rfl
  | true => exact haa.symm.trans (h.asymm a ha a ha haa)

/-- Items that are like one item are like each other. -/
theorem less_of_alike (h : Consistent less items) {b c : α} (ha : a ∈ items) (hb : b ∈ items)
    (hc : c ∈ items) (hab : alike less a b = true) (hac : alike less a c = true) :
    less b c = false := by
  simp only [alike, Bool.and_eq_true, Bool.not_eq_true'] at hab hac
  exact h.trans b hb a ha c hc hab.2 hac.1

end Consistent

/-- Items of which none is told apart from another keep their places, whichever they are. -/
theorem Stable.filter_eq (h : Stable less items out) {p : α → Bool}
    (hp : ∀ a ∈ items, ∀ b ∈ items, p a = true → p b = true → less a b = false) :
    out.filter p = items.filter p := by
  by_cases hsome : ∃ a ∈ items, p a = true
  · obtain ⟨a, ha, hpa⟩ := hsome
    -- They are among those that are like the first of them, which keep their places.
    have hamong : ∀ list ⊆ items, list.filter p = (list.filter (alike less a)).filter p := by
      intro list hlist
      rw [List.filter_filter]
      refine List.filter_congr fun b hb => ?_
      cases hpb : p b with
      | false => rfl
      | true => simp [alike, hp a ha b (hlist hb) hpa hpb, hp b (hlist hb) a ha hpb hpa]
    rw [hamong out h.perm.subset, h.keeps a ha, ← hamong items (List.Subset.refl _)]
  · have hnone : ∀ list ⊆ items, list.filter p = [] := fun list hlist =>
      List.filter_eq_nil_iff.2 fun b hb hpb => hsome ⟨b, hlist hb, hpb⟩
    rw [hnone out h.perm.subset, hnone items (List.Subset.refl _)]

/-! ## One item -/

/-- Items of which none has to stand in front of the other are not moved past each other. -/
theorem filter_insertReversed {p : α → Bool} {bs : List α}
    (hp : ∀ b ∈ bs, p a = true → p b = true → less a b = false) :
    (insertReversed less a bs).filter p = (a :: bs).filter p := by
  induction bs with
  | nil => rfl
  | cons b bs ih =>
    rw [insertReversed]
    split
    · rename_i hless
      have hnot : ¬(p a = true ∧ p b = true) := by
        rintro ⟨ha, hb⟩
        exact Bool.false_ne_true ((hp b List.mem_cons_self ha hb).symm.trans hless)
      have hbs := ih fun c hc => hp c (List.mem_cons_of_mem b hc)
      simp only [List.filter_cons, hbs]
      cases ha : p a <;> cases hb : p b <;> simp_all
    · rfl

/-- Items in order, in reverse, are in order with one more. -/
theorem pairwise_insertReversed {bs : List α} (h : Consistent less (a :: bs))
    (hbs : bs.Pairwise fun b c => less b c = false) :
    (insertReversed less a bs).Pairwise fun b c => less b c = false := by
  induction bs with
  | nil => exact List.pairwise_singleton ..
  | cons b bs ih =>
    obtain ⟨hb, hbs'⟩ := List.pairwise_cons.1 hbs
    rw [insertReversed]
    split
    · rename_i hless
      have hrest := h.subset (List.cons_subset_cons a (List.subset_cons_self b bs))
      refine List.pairwise_cons.2 ⟨fun c hc => ?_, ih hrest hbs'⟩
      rcases List.mem_cons.1 ((insertReversed_perm less a bs).mem_iff.1 hc) with rfl | hc
      · exact h.asymm c (by simp) b (by simp) hless
      · exact hb c hc
    · rename_i hless
      refine List.pairwise_cons.2 ⟨fun c hc => ?_, hbs⟩
      have hab : less a b = false := Bool.eq_false_iff.2 hless
      rcases List.mem_cons.1 hc with rfl | hc'
      · exact hab
      · exact h.trans a (by simp) b (by simp) c (by simp [hc']) hab (hb c hc')

/-! ## All items -/

/-- The last item is put in last. -/
theorem insertion_concat (items : List α) (a : α) : insertion less (items ++ [a]) =
    (insertReversed less a (insertion less items).reverse).reverse := by
  simp only [insertion, insertAll, List.foldl_append, List.foldl_cons, List.foldl_nil,
    List.reverse_reverse]

theorem stable_concat (h : Consistent less (items ++ [a])) (hout : Stable less items out) :
    Stable less (items ++ [a]) (insertReversed less a out.reverse).reverse := by
  have hmem : a :: out.reverse ⊆ items ++ [a] := by
    intro b hb
    rcases List.mem_cons.1 hb with rfl | hb
    · simp
    · exact List.mem_append_left _ (hout.perm.mem_iff.1 (List.mem_reverse.1 hb))
  have hperm : (insertReversed less a out.reverse).Perm (a :: items) :=
    (insertReversed_perm less a _).trans (((List.reverse_perm out).trans hout.perm).cons a)
  refine ⟨(List.reverse_perm _).trans (hperm.trans (List.perm_append_singleton a items).symm),
    List.pairwise_reverse.2 (pairwise_insertReversed (h.subset hmem) ?_), fun b hb => ?_⟩
  · exact List.pairwise_reverse.2 hout.sorted
  · have hitems : out.filter (alike less b) = items.filter (alike less b) := by
      refine hout.filter_eq fun c hc d hd hbc hbd => h.less_of_alike hb ?_ ?_ hbc hbd
      · exact List.mem_append_left _ hc
      · exact List.mem_append_left _ hd
    rw [List.filter_reverse, filter_insertReversed fun c hc ha hc' => ?_, List.filter_cons,
      List.filter_reverse, hitems, List.filter_append]
    · cases hba : alike less b a <;> simp [hba]
    · exact h.less_of_alike hb (by simp) (hmem (List.mem_cons_of_mem a hc)) ha hc'

/-- Insertion puts items in order and leaves those that are not told apart as they stood. -/
theorem stable_insertion (h : Consistent less items) :
    Stable less items (insertion less items) := by
  induction items using List.reverseRecOn with
  | nil => exact ⟨.refl _, .nil, fun _ _ => rfl⟩
  | append_singleton items a ih =>
    rw [insertion_concat]
    exact stable_concat h (ih (h.subset (List.subset_append_left items [a])))

/-! ## The only list in order -/

/-- Lists in order that hold items of each kind in the same places are the same. -/
theorem eq_of_filter_alike {xs ys : List α} (hperm : xs.Perm ys)
    (hself : ∀ a ∈ xs, less a a = false) (hxs : xs.Pairwise fun a b => less b a = false)
    (hys : ys.Pairwise fun a b => less b a = false)
    (hkeeps : ∀ a ∈ xs, xs.filter (alike less a) = ys.filter (alike less a)) : xs = ys := by
  induction xs generalizing ys with
  | nil => exact hperm.nil_eq
  | cons x xs ih =>
    cases ys with
    | nil => exact hperm.eq_nil
    | cons y ys =>
      obtain ⟨hx, hxs'⟩ := List.pairwise_cons.1 hxs
      obtain ⟨hy, hys'⟩ := List.pairwise_cons.1 hys
      have hxx := hself x List.mem_cons_self
      -- Neither of the first items has to stand in front of the other, as each follows the other.
      have hxy : less x y = false := by
        rcases List.mem_cons.1 (hperm.mem_iff.1 List.mem_cons_self) with rfl | hmem
        · exact hxx
        · exact hy x hmem
      have hyx : less y x = false := by
        rcases List.mem_cons.1 (hperm.mem_iff.2 List.mem_cons_self) with rfl | hmem
        · exact hxx
        · exact hx y hmem
      have hfirst := hkeeps x List.mem_cons_self
      rw [List.filter_cons_of_pos (by simp [alike, hxx]),
        List.filter_cons_of_pos (by simp [alike, hxy, hyx])] at hfirst
      obtain ⟨rfl, -⟩ := List.cons.inj hfirst
      refine congrArg _ (ih hperm.cons_inv (fun a ha => hself a (List.mem_cons_of_mem x ha)) hxs'
        hys' fun a ha => ?_)
      have hrest := hkeeps a (List.mem_cons_of_mem x ha)
      simp only [List.filter_cons] at hrest
      split at hrest
      · exact (List.cons.inj hrest).2
      · exact hrest

/-- Only one list holds the items in order and leaves those that are not told apart as they
    stood. -/
theorem Stable.unique (h : Consistent less items) (hout : Stable less items out)
    (hout' : Stable less items out') : out = out' :=
  eq_of_filter_alike (hout.perm.trans hout'.perm.symm)
    (fun _ ha => h.irrefl (hout.perm.mem_iff.1 ha)) hout.sorted hout'.sorted fun a ha =>
      (hout.keeps a (hout.perm.mem_iff.1 ha)).trans (hout'.keeps a (hout.perm.mem_iff.1 ha)).symm

/-- The list that holds the items in order is what insertion makes of them. -/
theorem stable_iff (h : Consistent less items) :
    Stable less items out ↔ out = insertion less items :=
  ⟨fun hout => hout.unique h (stable_insertion h), fun hout => hout ▸ stable_insertion h⟩

end RowQuery.Sorting
