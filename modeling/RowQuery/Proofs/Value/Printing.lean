import RowQuery.Filter.Operator
import RowQuery.Proofs.Value

/-!
# Literals at the front of a text

A literal can be taken off the front of a text again, if what stands behind it is nothing or goes on
with one of the characters that separate literals from what follows. A quoted literal ends at the
first quote that is not doubled, and any other one in front of the first separator. So one text
cannot begin with two literals, and the literals of a type are those of different values. Only the
literals of floats are left out.

* `Stops`, `ToldApart`: what may stand behind, and texts that tell what they are written for,
  whatever stands there;
* `append_inj_of_stops`: a text without separators ends at one place;
* `Value.doubled_append_inj`: so does a quoted text;
* `Value.toldApart_literal`: literals tell apart the values of a type and the null;
* `Value.Legible.sign_append_ne`: no literal is taken for the sign of an operator.
-/

namespace RowQuery

variable {s s' r r' : List Char}

/-! ## What stands behind -/

/-- The characters that separate words and literals from what follows. -/
def separators : List Char :=
  [' ', ',', ')']

/-- A text without separators. -/
def Solid (s : List Char) : Prop :=
  ∀ c ∈ s, c ∉ separators

instance (s : List Char) : Decidable (Solid s) :=
  decidable_of_iff (s.all (· ∉ separators) = true) <| List.all_eq_true.trans <|
    forall₂_congr fun _ _ => decide_eq_true_iff

/-- What may stand behind a literal: nothing, or a separator with any text behind it. -/
def Stops (r : List Char) : Prop :=
  ∀ c ∈ r.head?, c ∈ separators

theorem stops_nil : Stops [] :=
  nofun

theorem stops_cons {c : Char} (h : c ∈ separators) (r : List Char) : Stops (c :: r) := by
  rintro _ ⟨⟩
  exact h

/-- What may stand behind a literal begins with no quote. -/
theorem Stops.ne_quote (hr : Stops r) : r ≠ '\'' :: s := by
  rintro rfl
  exact absurd (hr '\'' rfl) (by decide)

/-- What is written for two things tells them apart, whatever stands behind. -/
def ToldApart {α : Type} (write : α → List Char) (a b : α) : Prop :=
  ∀ r r', Stops r → Stops r' → write a ++ r = write b ++ r' → a = b ∧ r = r'

theorem ToldApart.symm {α : Type} {write : α → List Char} {a b : α} (h : ToldApart write a b) :
    ToldApart write b a := by
  intro r r' hr hr' heq
  obtain ⟨hab, hbehind⟩ := h r' r hr' hr heq.symm
  exact ⟨hab.symm, hbehind.symm⟩

/-- Texts without separators end where what stands behind them begins. -/
theorem append_inj_of_stops (hs : Solid s) (hs' : Solid s') (hr : Stops r) (hr' : Stops r')
    (h : s ++ r = s' ++ r') : s = s' ∧ r = r' := by
  induction s generalizing s' with
  | nil =>
    rcases s' with _ | ⟨c, s'⟩
    · exact ⟨rfl, h⟩
    · exact absurd (hr c (by rw [← List.nil_append r, h]; rfl)) (hs' c List.mem_cons_self)
  | cons c s ih =>
    obtain ⟨hc, hs⟩ := List.forall_mem_cons.1 hs
    rcases s' with _ | ⟨d, s'⟩
    · exact absurd (hr' c (by rw [← List.nil_append r', ← h]; rfl)) hc
    · obtain ⟨rfl, htail⟩ := List.cons.inj h
      obtain ⟨rfl, hbehind⟩ := ih hs (List.forall_mem_cons.1 hs').2 htail
      exact ⟨rfl, hbehind⟩

theorem word_append_inj (hs : Solid s) (hs' : Solid s') (h : s ++ ' ' :: r = s' ++ ' ' :: r') :
    s = s' ∧ r = r' := by
  obtain ⟨hword, hbehind⟩ := append_inj_of_stops hs hs' (stops_cons (by decide) r)
    (stops_cons (by decide) r') h
  exact ⟨hword, (List.cons.inj hbehind).2⟩

namespace Operator

/-- The characters that signs begin with. -/
def signMarks : List Char :=
  ['I', '=', '>', '<', 'L', 'B']

theorem exists_signMark (op : Operator) : ∃ c s, op.sign.toList = c :: s ∧ c ∈ signMarks := by
  cases op <;> exact ⟨_, _, rfl, by decide⟩

theorem sign_append_ne_nil (op : Operator) (x : List Char) : op.sign.toList ++ x ≠ [] := by
  obtain ⟨c, s, hsign, -⟩ := op.exists_signMark
  rw [hsign]
  exact List.cons_ne_nil _ _

theorem sign_append_ne (op : Operator) {c : Char} (hc : c ∉ signMarks) {x : List Char} :
    op.sign.toList ++ x ≠ c :: s := by
  obtain ⟨d, sign, hsign, hd⟩ := op.exists_signMark
  rw [hsign]
  intro h
  exact hc ((List.cons.inj h).1 ▸ hd)

end Operator

namespace Value

variable {t : ColumnType} {v w : Value}

/-! ## Quoted literals -/

/-- A character between quotes. -/
def doubled (c : Char) : List Char :=
  if c = '\'' then ['\'', '\''] else [c]

theorem singleQuoted_append (s r : List Char) :
    singleQuoted s ++ r = '\'' :: (s.flatMap doubled ++ '\'' :: r) := by
  rw [singleQuoted, List.append_assoc]
  rfl

theorem doubled_append (c : Char) (r : List Char) :
    doubled c ++ r = c :: (if c = '\'' then '\'' :: r else r) := by
  rw [doubled]
  split
  · rename_i hc
    rw [hc]
    rfl
  · rfl

/-- Behind an opening quote, a text ends at the first quote that is not doubled. -/
theorem doubled_append_inj (hr : Stops r) (hr' : Stops r')
    (h : s.flatMap doubled ++ '\'' :: r = s'.flatMap doubled ++ '\'' :: r') : s = s' ∧ r = r' := by
  induction s generalizing s' with
  | nil =>
    rcases s' with _ | ⟨d, s'⟩
    · exact ⟨rfl, (List.cons.inj h).2⟩
    · rw [List.flatMap_cons, List.append_assoc, doubled_append] at h
      obtain ⟨rfl, hdoubled⟩ := List.cons.inj h
      exact absurd hdoubled hr.ne_quote
  | cons c s ih =>
    rw [List.flatMap_cons, List.append_assoc] at h
    rcases s' with _ | ⟨d, s'⟩
    · rw [doubled_append] at h
      obtain ⟨rfl, hdoubled⟩ := List.cons.inj h
      exact absurd hdoubled.symm hr'.ne_quote
    · rw [List.flatMap_cons, List.append_assoc] at h
      -- Doubled or not, a character stands there itself first, so that it tells if it is doubled.
      obtain rfl : c = d := by
        rw [doubled_append, doubled_append] at h
        exact (List.cons.inj h).1
      obtain ⟨rfl, hbehind⟩ := ih (List.append_cancel_left h)
      exact ⟨rfl, hbehind⟩

theorem singleQuoted_append_inj (hr : Stops r) (hr' : Stops r')
    (h : singleQuoted s ++ r = singleQuoted s' ++ r') : s = s' ∧ r = r' := by
  rw [singleQuoted_append, singleQuoted_append] at h
  exact doubled_append_inj hr hr' (List.cons.inj h).2

theorem singleQuoted_inj (h : singleQuoted s = singleQuoted s') : s = s' :=
  (singleQuoted_append_inj stops_nil stops_nil (congrArg (· ++ []) h)).1

/-! ## Literals -/

/-- The values that are compared with cells of a type: those that it reads, and the null. -/
def Legible (t : ColumnType) (v : Value) : Prop :=
  v = .null ∨ v.Readable t

/-- What cells show tells readable values apart. -/
theorem Readable.eq_of_cell (hv : v.Readable t) (hw : w.Readable t) (h : v.cell = w.cell) :
    v = w := by
  have hread := ColumnType.read?_cell hv
  rw [h, ColumnType.read?_cell hw] at hread
  exact (Option.some.inj hread).symm

/-- A literal is a quoted cell, or has neither separators nor quotes in it. -/
theorem Legible.literal (hv : v.Legible t) :
    v.Readable t ∧ v.literal = singleQuoted v.cell ∨ Solid v.literal ∧ '\'' ∉ v.literal := by
  rcases hv with rfl | hv
  · exact .inr (by decide)
  · cases hv with
    | bool b => cases b <;> exact .inr (by decide)
    | int h =>
      have hother : ∀ c ∈ separators, c ≠ '-' ∧ c.isDigit = false := by simp [separators]
      exact .inr ⟨fun c hc hmem => Decimal.not_mem_intText (hother c hmem) _ hc,
        Decimal.not_mem_intText (by decide) _⟩
    | text s => exact .inl ⟨.text s, rfl⟩
    | date d => exact .inl ⟨.date d, rfl⟩
    | dateTime h => exact .inl ⟨.dateTime h, rfl⟩

theorem ne_quote_of_bare {x : List Char} (hs : '\'' ∉ s) (hr : Stops r) : s ++ r ≠ '\'' :: x := by
  rcases s with _ | ⟨c, s⟩
  · exact hr.ne_quote
  · intro h
    exact hs ((List.cons.inj h).1 ▸ List.mem_cons_self)

theorem Readable.literal_ne_null (hv : v.Readable t) : v.literal ≠ null.literal := by
  cases hv with
  | bool b => cases b <;> decide
  | int h =>
    intro heq
    have hmem : 'N' ∈ null.literal := List.mem_cons_self
    rw [← heq] at hmem
    exact Decimal.not_mem_intText (by decide) _ hmem
  | _ => exact fun h => absurd (List.cons.inj h).1 (by decide)

/-- The literals of a type are those of different values. -/
theorem Legible.eq_of_literal (hv : v.Legible t) (hw : w.Legible t)
    (h : v.literal = w.literal) : v = w := by
  rcases hv with rfl | hv <;> rcases hw with rfl | hw
  · rfl
  · exact absurd h.symm hw.literal_ne_null
  · exact absurd h hv.literal_ne_null
  · refine hv.eq_of_cell hw ?_
    cases hv with
    | bool a =>
      cases hw with
      | bool b => cases a <;> cases b <;> first | rfl | exact absurd h (by decide)
    | int _ =>
      cases hw with
      | int _ => exact h
    | _ =>
      cases hw with
      | _ => exact singleQuoted_inj h

/-- Literals tell apart the values of a type and the null. -/
theorem toldApart_literal (hv : v.Legible t) (hw : w.Legible t) : ToldApart literal v w := by
  intro r r' hr hr' h
  rcases hv.literal with ⟨hv', hquoted⟩ | ⟨hsolid, hbare⟩ <;>
    rcases hw.literal with ⟨hw', hquoted'⟩ | ⟨hsolid', hbare'⟩
  · rw [hquoted, hquoted'] at h
    obtain ⟨hcell, hbehind⟩ := singleQuoted_append_inj hr hr' h
    exact ⟨hv'.eq_of_cell hw' hcell, hbehind⟩
  · rw [hquoted, singleQuoted_append] at h
    exact absurd h.symm (ne_quote_of_bare hbare' hr')
  · rw [hquoted', singleQuoted_append] at h
    exact absurd h (ne_quote_of_bare hbare hr)
  · -- Without quotes, the literals are the same before anything is known of the values.
    obtain ⟨hliteral, hbehind⟩ := append_inj_of_stops hsolid hsolid' hr hr' h
    exact ⟨hv.eq_of_literal hw hliteral, hbehind⟩

theorem Legible.not_mem_signMarks (hv : v.Legible t) {c : Char} (h : v.literal = c :: s) :
    c ∉ Operator.signMarks := by
  rcases hv with rfl | hv
  · cases h
    decide
  · cases hv with
    | bool b =>
      cases b <;> cases h <;> decide
    | int _ =>
      have hother : ∀ c ∈ Operator.signMarks, c ≠ '-' ∧ c.isDigit = false := by
        simp [Operator.signMarks]
      exact fun hmark => Decimal.not_mem_intText (hother c hmark) _ (h ▸ List.mem_cons_self)
    | _ =>
      cases h
      decide

/-- No literal is taken for the sign of an operator. -/
theorem Legible.sign_append_ne (hv : v.Legible t) (op : Operator) (x : List Char)
    (hr : Stops r) : op.sign.toList ++ x ≠ v.literal ++ r := by
  rcases hliteral : v.literal with _ | ⟨c, s⟩
  · -- An empty literal would leave the sign to what stands behind.
    have hmarks : Solid Operator.signMarks := by decide
    rcases r with _ | ⟨c, r⟩
    · exact op.sign_append_ne_nil x
    · exact op.sign_append_ne fun hc => hmarks c hc (hr c rfl)
  · exact op.sign_append_ne (hv.not_mem_signMarks hliteral)

end Value

end RowQuery
