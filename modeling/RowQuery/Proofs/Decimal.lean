import RowQuery.Decimal.Digits
import RowQuery.Text.Space

/-!
# Numerals among other characters

Numerals hold no white space, so trimming leaves them as they are. A numeral filled up to a width is
of that width, if the number is not too great for it, and stands for the number still.

* `readInt64?_trim_intText`: an integer is read back as far as it fits a machine word;
* `isDigit_of_mem_padded`, `length_padded`, `value_padded`: what a filled up numeral is like.
-/

namespace RowQuery.Decimal

theorem mem_intText {i : Int} {c : Char} (h : c ∈ intText i) : c = '-' ∨ c.isDigit = true := by
  rw [intText] at h
  split at h
  · exact (List.mem_cons.1 h).imp_right isDigit_of_mem_natText
  · exact .inr (isDigit_of_mem_natText h)

theorem not_mem_intText {c : Char} (h : c ≠ '-' ∧ c.isDigit = false) (i : Int) :
    c ∉ intText i := fun hc =>
  (mem_intText hc).elim h.1 (Bool.eq_false_iff.1 h.2)

theorem isSpace_of_mem_intText {i : Int} {c : Char} (h : c ∈ intText i) :
    Text.isSpace c = false := by
  rcases mem_intText h with rfl | hdigit
  · decide
  · exact Text.isSpace_of_isDigit hdigit

/-- An integer is read back as far as it fits a machine word. -/
theorem readInt64?_trim_intText (i : Int) :
    readInt64? (Text.trim (intText i)) = (some i).filter isInt64 := by
  rw [Text.trim_eq_self fun _ => isSpace_of_mem_intText, readInt64?, readInt?_intText]

variable {w n : Nat}

theorem isDigit_of_mem_padded {c : Char} (h : c ∈ padded w n) : c.isDigit = true := by
  rcases List.mem_append.1 h with h | h
  · rw [(List.mem_replicate.1 h).2]
    rfl
  · exact isDigit_of_mem_natText h

theorem isSpace_of_mem_padded {c : Char} (h : c ∈ padded w n) : Text.isSpace c = false :=
  Text.isSpace_of_isDigit (isDigit_of_mem_padded h)

theorem length_natText_le (hw : 0 < w) : (natText n).length ≤ w ↔ n < power 10 w :=
  Nat.length_toDigits_le_iff (by decide) hw

/-- A numeral is filled up to its width, and not beyond. -/
theorem length_padded (hw : 0 < w) (h : n < power 10 w) : (padded w n).length = w := by
  have hlength := (length_natText_le hw).2 h
  rw [padded, List.length_append, List.length_replicate]
  omega

theorem length_padded_pos : 0 < (padded w n).length := by
  rw [padded, List.length_append]
  have := List.length_pos_iff.2 (natText_ne_nil n)
  omega

/-- Zeros in front count for nothing. -/
theorem value_replicate_append (k : Nat) (ds : List Char) :
    value (List.replicate k '0' ++ ds) = value ds := by
  induction k with
  | zero => rfl
  | succ k ih => exact ih

/-- A numeral that is filled up stands for the number still. -/
theorem value_padded (w n : Nat) : value (padded w n) = n := by
  rw [padded]
  exact (value_replicate_append _ _).trans (value_natText n)

end RowQuery.Decimal
