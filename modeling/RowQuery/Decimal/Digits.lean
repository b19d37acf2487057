/-!
# Decimal numerals

Whole numbers as texts: `natText` and `intText` write them, `readNat?` and `readInt?` read them.
Only the ASCII digits are digits; a sign may stand in front of an integer, either way; leading
zeros are read and never written. Numbers that have to fit a machine word are read by
`readInt64?`, which refuses those outside the 64-bit signed range.

* `readNat?_natText`, `readInt?_intText`: what is written is read back.
-/

namespace RowQuery.Decimal

/-- The digits of a natural number, without leading zeros. -/
def natText (n : Nat) : List Char :=
  Nat.toDigits 10 n

/-- The digits of an integer, after a minus sign if it is negative. -/
def intText (i : Int) : List Char :=
  if i < 0 then '-' :: natText i.natAbs else natText i.natAbs

/-- The digits of a natural number, filled up with zeros in front to at least `width`. -/
def padded (width n : Nat) : List Char :=
  let ds := natText n
  List.replicate (width - ds.length) '0' ++ ds

/-- A power of a natural number. -/
def power (base exponent : Nat) : Nat :=
  Nat.pow base exponent

/-- The value of a digit. -/
def digitValue (c : Char) : Nat :=
  c.toNat - 48

/-- The number that a run of digits stands for. -/
def value (ds : List Char) : Nat :=
  ds.foldl (fun n c => 10 * n + digitValue c) 0

/-- Reads a natural number: one digit or more and nothing else. -/
def readNat? (s : List Char) : Option Nat :=
  if s ≠ [] ∧ s.all Char.isDigit then some (value s) else none

/-- Takes a sign off the front: whether it was a minus, and what follows. -/
def takeSign : List Char → Bool × List Char
  | '-' :: s => (true, s)
  | '+' :: s => (false, s)
  | s => (false, s)

/-- Reads an integer: a sign or none, and digits. -/
def readInt? (s : List Char) : Option Int :=
  let (negative, ds) := takeSign s
  (readNat? ds).map fun (n : Nat) => if negative then -(n : Int) else (n : Int)

/-- The least 64-bit signed number. -/
def int64Min : Int := -0x8000000000000000

/-- The greatest 64-bit signed number. -/
def int64Max : Int := 0x7FFFFFFFFFFFFFFF

/-- Whether an integer is a 64-bit signed number. -/
def isInt64 (i : Int) : Bool :=
  int64Min ≤ i && i ≤ int64Max

/-- Reads a 64-bit signed number. -/
def readInt64? (s : List Char) : Option Int :=
  (readInt? s).filter isInt64

/-! ## Reading what was written -/

theorem isDigit_of_mem_natText {n : Nat} {c : Char} (h : c ∈ natText n) : c.isDigit = true :=
  Nat.isDigit_of_mem_toDigits (by decide) (by decide) h

theorem natText_ne_nil (n : Nat) : natText n ≠ [] :=
  Nat.toDigits_ne_nil

theorem digitValue_digitChar {d : Nat} (h : d < 10) : digitValue (Nat.digitChar d) = d := by
  rw [digitValue, Nat.toNat_digitChar_of_lt_ten h]
  omega

theorem value_append_singleton (ds : List Char) (c : Char) :
    value (ds ++ [c]) = 10 * value ds + digitValue c := by
  simp [value]

/-- The digits of a number stand for it. -/
theorem value_natText (n : Nat) : value (natText n) = n := by
  induction n using Nat.strongRecOn with
  | ind n ih =>
    by_cases h : n < 10
    · rw [natText, Nat.toDigits_of_lt_base h]
      simp [value, digitValue_digitChar h]
    · have hq : 0 < n / 10 := by omega
      have hr : n % 10 < 10 := Nat.mod_lt _ (by decide)
      have hd := Nat.toDigits_append_toDigits (b := 10) (n := n / 10) (d := n % 10)
        (by decide) hq hr
      rw [Nat.toDigits_of_lt_base hr] at hd
      have hn : 10 * (n / 10) + n % 10 = n := by omega
      have ih' := ih (n / 10) (by omega)
      rw [natText] at ih' ⊢
      rw [hn] at hd
      rw [← hd, value_append_singleton, ih', digitValue_digitChar hr, hn]

@[simp] theorem readNat?_natText (n : Nat) : readNat? (natText n) = some n := by
  have h : (natText n).all Char.isDigit = true :=
    List.all_eq_true.2 fun _ hc => isDigit_of_mem_natText hc
  simp [readNat?, natText_ne_nil, h, value_natText]

/-- Digits begin with no sign. -/
theorem takeSign_natText (n : Nat) : takeSign (natText n) = (false, natText n) := by
  have h : ∀ c ∈ natText n, c.isDigit = true := fun _ hc => isDigit_of_mem_natText hc
  generalize natText n = s at h
  unfold takeSign
  split
  · exact absurd (h '-' List.mem_cons_self) (by decide)
  · exact absurd (h '+' List.mem_cons_self) (by decide)
  · rfl

@[simp] theorem readInt?_intText (i : Int) : readInt? (intText i) = some i := by
  by_cases h : i < 0
  · have hi : intText i = '-' :: natText i.natAbs := if_pos h
    have hn : -(i.natAbs : Int) = i := by omega
    simp only [hi, readInt?, takeSign, readNat?_natText, Option.map_some, if_true, hn]
  · have hi : intText i = natText i.natAbs := if_neg h
    have hn : (i.natAbs : Int) = i := by omega
    simp only [hi, readInt?, takeSign_natText, readNat?_natText, Option.map_some,
      Bool.false_eq_true, if_false, hn]

end RowQuery.Decimal
