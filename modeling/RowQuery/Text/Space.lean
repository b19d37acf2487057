/-!
# White space

Blank input is judged by the Unicode property *White_Space* (twenty-five code points), not by the
four characters that a source file would call blank. `trim` takes the blanks off both ends of a
text; `trimStart` alone tells how far into a text its first visible character lies.

* `trim_eq_nil`: a text trims to nothing exactly when all of it is blank;
* `trim_eq_self`: a text without blanks stays as it is;
* `trimStart_append`: what is trimmed in front is blank, and nothing else is lost.
-/

namespace RowQuery.Text

/-- Closed ranges of code points. -/
abbrev Ranges := List (Nat × Nat)

/-- Whether a code point lies in one of the ranges. -/
def Ranges.has (rs : Ranges) (n : Nat) : Bool :=
  rs.any fun r => r.1 ≤ n && n ≤ r.2

/-- The code points with the property White_Space. -/
def spaceRanges : Ranges :=
  [(0x09, 0x0D), (0x20, 0x20), (0x85, 0x85), (0xA0, 0xA0), (0x1680, 0x1680), (0x2000, 0x200A),
   (0x2028, 0x2029), (0x202F, 0x202F), (0x205F, 0x205F), (0x3000, 0x3000)]

/-- Whether a character is white space. -/
def isSpace (c : Char) : Bool :=
  spaceRanges.has c.toNat

/-- The text without the white space in front. -/
def trimStart (s : List Char) : List Char :=
  s.dropWhile isSpace

/-- The text without the white space behind. -/
def trimEnd (s : List Char) : List Char :=
  (s.reverse.dropWhile isSpace).reverse

/-- The text without the white space at either end. -/
def trim (s : List Char) : List Char :=
  trimEnd (trimStart s)

/-- Whether a text holds nothing but white space. -/
def isBlank (s : String) : Bool :=
  s.toList.all isSpace

/-- No digit is white space. -/
theorem isSpace_of_isDigit {c : Char} (h : c.isDigit = true) : isSpace c = false := by
  simp only [Char.isDigit, Bool.and_eq_true, decide_eq_true_eq, UInt32.le_iff_toNat_le] at h
  have hlow : 48 ≤ c.toNat := h.1
  have hhigh : c.toNat ≤ 57 := h.2
  simp [isSpace, spaceRanges, Ranges.has]
  omega

/-- What is trimmed in front is white space, and the rest is kept. -/
theorem trimStart_append (s : List Char) : s.takeWhile isSpace ++ trimStart s = s :=
  List.takeWhile_append_dropWhile

theorem trimStart_cons {c : Char} (h : isSpace c = false) (s : List Char) :
    trimStart (c :: s) = c :: s :=
  List.dropWhile_cons_of_neg (by simp [h])

theorem trimStart_eq_nil {s : List Char} : trimStart s = [] ↔ ∀ c ∈ s, isSpace c = true := by
  induction s with
  | nil => simp [trimStart]
  | cons c s ih => by_cases hc : isSpace c = true <;> simp_all [trimStart]

theorem trimEnd_eq_nil {s : List Char} : trimEnd s = [] ↔ ∀ c ∈ s, isSpace c = true := by
  rw [trimEnd, List.reverse_eq_nil_iff]
  exact (trimStart_eq_nil (s := s.reverse)).trans (by simp)

/-- A text trims to nothing exactly when all of it is white space. -/
theorem trim_eq_nil {s : List Char} : trim s = [] ↔ ∀ c ∈ s, isSpace c = true := by
  rw [trim, trimEnd_eq_nil, trimStart]
  induction s with
  | nil => simp
  | cons c s ih =>
    by_cases hc : isSpace c = true
    · simp [hc, ih]
    · simp [hc]

/-- A text without white space stays as it is. -/
theorem trim_eq_self {s : List Char} (h : ∀ c ∈ s, isSpace c = false) : trim s = s := by
  have hstart : ∀ {s : List Char}, (∀ c ∈ s, isSpace c = false) → trimStart s = s := by
    intro s h
    cases s with
    | nil => rfl
    | cons c s => exact trimStart_cons (h c List.mem_cons_self) s
  have hend : trimStart s.reverse = s.reverse := hstart fun c hc => h c (List.mem_reverse.1 hc)
  rw [trim, hstart h, trimEnd]
  exact (congrArg List.reverse hend).trans (List.reverse_reverse s)

end RowQuery.Text
