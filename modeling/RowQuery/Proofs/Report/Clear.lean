import RowQuery.Proofs.Calendar
import RowQuery.Proofs.Filter.Literals
import RowQuery.Report.Page

/-!
# Texts without an escape

Colours on a terminal are sequences that begin with an escape character, and nothing else in a
report should begin one. No text that is made here, for a number, a day, a time or an operator, has
an escape in it, nor has a listing of input that could not be read, where an escape is written as a
number. So a report has one only if it is in a text that was handed in: in a name, a text value or
an address.

* `Report.Clear`: a text has no escape;
* `Report.clear_quoted`, `Report.clear_float`: listings and numbers;
* `Report.mem_joinCells`: the characters in a line of cells;
* `Value.Clear.literal`, `Value.Clear.cell`: values whose text is clear, as they are shown;
* `Predicate.Clear.text`: a predicate.
-/

namespace RowQuery

namespace Report

/-- The character that colour sequences begin with. -/
def escape : Char := '\x1b'

/-- A text has no escape. -/
def Clear (s : List Char) : Prop :=
  escape ∉ s

instance (s : List Char) : Decidable (Clear s) :=
  inferInstanceAs (Decidable (escape ∉ s))

variable {s t : List Char} {c : Char}

theorem clear_iff : Clear s ↔ ∀ c ∈ s, c ≠ escape :=
  ⟨fun h _ hc heq => h (heq ▸ hc), fun h hc => h _ hc rfl⟩

@[simp] theorem clear_nil : Clear [] :=
  List.not_mem_nil

@[simp] theorem clear_cons : Clear (c :: s) ↔ c ≠ escape ∧ Clear s := by
  rw [Clear, Clear, List.mem_cons, not_or, ne_comm]

@[simp] theorem clear_append : Clear (s ++ t) ↔ Clear s ∧ Clear t := by
  rw [Clear, Clear, Clear, List.mem_append, not_or]

/-- What stands between two clear texts. -/
theorem clear_between {front back : List Char} (hfront : Clear front) (hs : Clear s)
    (hback : Clear back) : Clear (front ++ s ++ back) :=
  clear_append.2 ⟨clear_append.2 ⟨hfront, hs⟩, hback⟩

theorem Clear.of_subset (h : Clear t) (hs : s ⊆ t) : Clear s :=
  fun hc => h (hs hc)

theorem ne_escape_of_isDigit (c : Char) (h : c.isDigit = true) : c ≠ escape := by
  rintro rfl
  exact absurd h (by decide)

theorem clear_of_isDigit (h : ∀ c ∈ s, c.isDigit = true) : Clear s :=
  clear_iff.2 fun c hc => ne_escape_of_isDigit c (h c hc)

theorem clear_replicate (h : c ≠ escape) (n : Nat) : Clear (List.replicate n c) :=
  clear_iff.2 fun _ hd => (List.mem_replicate.1 hd).2 ▸ h

theorem clear_flatMap {f : Char → List Char} (h : ∀ c ∈ s, Clear (f c)) : Clear (s.flatMap f) := by
  intro hc
  obtain ⟨d, hd, hc⟩ := List.mem_flatMap.1 hc
  exact h d hd hc

/-- What is put together consists of the pieces and of what stands between them. -/
theorem mem_joinText {separator : List Char} {ss : List (List Char)}
    (h : c ∈ joinText separator ss) : c ∈ separator ∨ ∃ s ∈ ss, c ∈ s := by
  rcases ss with _ | ⟨s, ss⟩
  · cases h
  rw [joinText_eq_flatMap] at h
  rcases List.mem_append.1 h with hs | hss
  · exact .inr ⟨s, List.mem_cons_self, hs⟩
  · obtain ⟨t, ht, hc⟩ := List.mem_flatMap.1 hss
    exact (List.mem_append.1 hc).imp_right fun hc => ⟨t, List.mem_cons_of_mem s ht, hc⟩

theorem clear_joinText {separator : List Char} (hseparator : Clear separator)
    {ss : List (List Char)} (h : ∀ s ∈ ss, Clear s) : Clear (joinText separator ss) := by
  intro hc
  rcases mem_joinText hc with hc | ⟨s, hs, hc⟩
  · exact hseparator hc
  · exact h s hs hc

/-! ## Numbers, days and times -/

@[simp] theorem clear_natText (n : Nat) : Clear (Decimal.natText n) :=
  clear_of_isDigit fun _ => Decimal.isDigit_of_mem_natText

@[simp] theorem clear_intText (i : Int) : Clear (Decimal.intText i) := by
  refine clear_iff.2 fun c hc => ?_
  rcases Decimal.mem_intText hc with rfl | hdigit
  · decide
  · exact ne_escape_of_isDigit c hdigit

/-- A point after the first digit. -/
theorem clear_pointed : ∀ {ds : List Char}, Clear ds → Clear (match ds with
    | [c] => [c]
    | c :: cs => c :: '.' :: cs
    | [] => [])
  | [], h => h
  | [_], h => h
  | _ :: _ :: _, h =>
    have hdigits := clear_cons.1 h
    clear_cons.2 ⟨hdigits.1, clear_cons.2 ⟨by decide, hdigits.2⟩⟩

theorem clear_arrange (l : Decimal.Layout) (d : Decimal.Scientific) : Clear (l.arrange d) := by
  have hdigits := clear_natText d.digits
  have hzeros : ∀ n, Clear (List.replicate n '0') := clear_replicate (by decide)
  simp only [Decimal.Layout.arrange]
  split
  · split
    · exact clear_append.2 ⟨clear_append.2 ⟨by decide, hzeros _⟩, hdigits⟩
    split
    · refine clear_append.2 ⟨clear_append.2 ⟨hdigits, hzeros _⟩, ?_⟩
      split <;> decide
    · exact clear_append.2 ⟨hdigits.of_subset (List.take_subset ..),
        clear_cons.2 ⟨by decide, hdigits.of_subset (List.drop_subset ..)⟩⟩
  · refine clear_append.2 ⟨clear_append.2 ⟨clear_pointed hdigits,
      clear_cons.2 ⟨by decide, ?_⟩⟩, clear_intText _⟩
    split <;> decide

@[simp] theorem clear_float (l : Decimal.Layout) (x : Float) : Clear (l.text x) := by
  rw [Decimal.Layout.text]
  split
  · decide
  refine clear_append.2 ⟨?_, ?_⟩
  · split <;> decide
  split
  · decide
  dsimp only
  split
  · split <;> decide
  · exact clear_arrange _ _

@[simp] theorem clear_date (d : Calendar.Date) : Clear d.text :=
  clear_iff.2 (Calendar.Date.forall_mem_text ne_escape_of_isDigit (by simp [escape]))

@[simp] theorem clear_dateTime (t : Calendar.DateTime) : Clear t.text :=
  clear_iff.2 (Calendar.DateTime.forall_mem_text ne_escape_of_isDigit (by simp [escape]))

/-! ## Listings -/

theorem clear_hexDigits (n : Nat) : Clear (Text.hexDigits n) := by
  have hdigit : ∀ d < 16, Clear [Nat.digitChar d] := by decide
  induction n using Nat.strongRecOn with
  | ind n ih =>
    by_cases h : n < 16
    · rw [Text.hexDigits, Nat.toDigits_of_lt_base h]
      exact hdigit n h
    · have hr : n % 16 < 16 := Nat.mod_lt _ (by decide)
      have hd := Nat.toDigits_append_toDigits (b := 16) (n := n / 16) (d := n % 16)
        (by decide) (by omega) hr
      have hn : 16 * (n / 16) + n % 16 = n := by omega
      rw [hn, Nat.toDigits_of_lt_base hr] at hd
      rw [Text.hexDigits, ← hd]
      exact clear_append.2 ⟨ih (n / 16) (by omega), hdigit _ hr⟩

/-- An escape is not shown as it is, but as its number. -/
theorem clear_quoteChar (c : Char) : Clear (Text.quoteChar c) := by
  unfold Text.quoteChar
  split
  any_goals decide
  split
  · exact clear_append.2 ⟨clear_append.2 ⟨by decide, clear_hexDigits _⟩, by decide⟩
  · rename_i hshown
    refine clear_cons.2 ⟨?_, clear_nil⟩
    rintro rfl
    exact hshown (by decide)

@[simp] theorem clear_quoted (s : String) : Clear (Text.quoted s).toList := by
  rw [Text.quoted, String.toList_ofList]
  exact clear_cons.2 ⟨by decide, clear_append.2
    ⟨clear_flatMap fun c _ => clear_quoteChar c, by decide⟩⟩

/-! ## Layout -/

theorem mem_truncate {width : Nat} (h : c ∈ truncate width s) : c ∈ s ∨ c = '.' := by
  rw [truncate] at h
  split at h
  · rcases List.mem_append.1 h with htaken | hpoints
    · exact .inl (List.mem_of_mem_take htaken)
    · exact .inr (List.eq_of_mem_replicate (n := 3) hpoints)
  · exact .inl h

theorem mem_padRight {width : Nat} (h : c ∈ padRight width s) : c ∈ s ∨ c = ' ' :=
  (List.mem_append.1 h).imp_right List.eq_of_mem_replicate

theorem mem_trimEnd (h : c ∈ Text.trimEnd s) : c ∈ s :=
  List.mem_reverse.1 (List.dropWhile_subset _ (List.mem_reverse.1 h))

/-- A line consists of its cells and of blanks. -/
theorem mem_joinCells {widths : List Nat} {cells : List (List Char)}
    (h : c ∈ joinCells widths cells) : c = ' ' ∨ ∃ s ∈ cells, c ∈ s := by
  rcases mem_joinText (mem_trimEnd h) with hblank | ⟨block, hblock, hc⟩
  · exact .inl (List.eq_of_mem_replicate (n := 2) hblank)
  · rw [← List.map_uncurry_zip_eq_zipWith] at hblock
    obtain ⟨⟨width, s⟩, hs, rfl⟩ := List.mem_map.1 hblock
    exact (mem_padRight hc).symm.imp_right fun hc => ⟨s, (List.of_mem_zip hs).2, hc⟩

theorem Clear.truncate (h : Clear s) (width : Nat) : Clear (truncate width s) :=
  clear_iff.2 fun _ hd => (mem_truncate hd).elim (clear_iff.1 h _) fun hpoint => hpoint ▸ by decide

theorem Clear.padRight (h : Clear s) (width : Nat) : Clear (padRight width s) :=
  clear_append.2 ⟨h, clear_replicate (by decide) _⟩

theorem Clear.padLeft (h : Clear s) (width : Nat) : Clear (padLeft width s) :=
  clear_append.2 ⟨clear_replicate (by decide) _, h⟩

theorem clear_joinCells {cells : List (List Char)} (h : ∀ s ∈ cells, Clear s) (widths : List Nat) :
    Clear (joinCells widths cells) := by
  intro hc
  rcases mem_joinCells hc with hblank | ⟨s, hs, hc⟩
  · exact absurd hblank (by decide)
  · exact h s hs hc

end Report

open Report (clear_append clear_between clear_cons clear_nil clear_joinText)

/-! ## Values -/

namespace Value

/-- The text of a value is clear, if it is a text. -/
def Clear : Value → Prop
  | text s => Report.Clear s.toList
  | _ => True

variable {v : Value}

theorem clear_truth (b : Bool) : Report.Clear (if b then "true".toList else "false".toList) := by
  cases b <;> decide

theorem clear_singleQuoted {s : List Char} (h : Report.Clear s) : Report.Clear (singleQuoted s) := by
  refine clear_append.2 ⟨clear_cons.2 ⟨by decide, Report.clear_flatMap fun c hc => ?_⟩, by decide⟩
  split
  · decide
  · exact clear_cons.2 ⟨Report.clear_iff.1 h c hc, clear_nil⟩

theorem Clear.literal (h : v.Clear) : Report.Clear v.literal := by
  cases v with
  | null => decide
  | bool b => cases b <;> decide
  | int i => exact Report.clear_intText i
  | float x => exact Report.clear_float _ x
  | text s => exact clear_singleQuoted h
  | date d => exact clear_singleQuoted (Report.clear_date d)
  | dateTime t => exact clear_singleQuoted (Report.clear_dateTime t)

theorem Clear.cell (h : v.Clear) : Report.Clear v.cell := by
  cases v with
  | null => decide
  | bool b => exact clear_truth b
  | int i => exact Report.clear_intText i
  | float x => exact Report.clear_float _ x
  | text s => exact h
  | date d => exact Report.clear_date d
  | dateTime t => exact Report.clear_dateTime t

/-- In a listing a text is quoted, so an escape in it does not matter. -/
theorem clear_listing (v : Value) : Report.Clear v.listing := by
  cases v with
  | null => decide
  | bool b => exact clear_between (by decide) (clear_truth b) (by decide)
  | int i => exact clear_between (by decide) (Report.clear_intText i) (by decide)
  | float x => exact clear_between (by decide) (Report.clear_float _ x) (by decide)
  | text s => exact clear_between (by decide) (Report.clear_quoted s) (by decide)
  | date d => exact clear_between (by decide) (Report.clear_date d) (by decide)
  | dateTime t => exact clear_between (by decide) (Report.clear_dateTime t) (by decide)

end Value

/-! ## Predicates -/

namespace Operator

theorem clear_sign (op : Operator) : Report.Clear op.sign.toList := by
  cases op <;> decide

theorem clear_title (op : Operator) : Report.Clear op.title.toList := by
  cases op <;> decide

theorem clear_key (op : Operator) (negated : Bool) : Report.Clear (op.key negated).toList := by
  cases op <;> cases negated <;> decide

end Operator

namespace Operand

theorem clear_listing (o : Operand) : Report.Clear o.listing := by
  cases o with
  | scalar v => exact clear_between (by decide) v.clear_listing (by decide)
  | list vs =>
    have hlist : Report.Clear (joinText ", ".toList (vs.map Value.listing)) :=
      clear_joinText (by decide) (List.forall_mem_map.2 fun v _ => v.clear_listing)
    exact clear_between (by decide) hlist (by decide)
  | range low high =>
    have hlow := clear_between (show Report.Clear "Range(".toList by decide) low.clear_listing
      (show Report.Clear ", ".toList by decide)
    exact clear_between hlow high.clear_listing (by decide)

end Operand

/-- The column and the values of a comparison are clear. -/
structure Comparison.Clear (c : Comparison) : Prop where
  column : Report.Clear c.column.toList
  values : ∀ v ∈ c.operand.values, v.Clear

/-- The columns and the values of a predicate are clear. -/
def Predicate.Clear : Predicate → Prop
  | compare c => c.Clear
  | and l r | or l r => l.Clear ∧ r.Clear
  | not p => p.Clear

theorem Comparison.Clear.text {c : Comparison} (h : c.Clear) : Report.Clear c.text := by
  obtain ⟨column, operator, operand⟩ := c
  obtain ⟨hcolumn, hvalues⟩ := h
  have hliteral : ∀ v ∈ operand.values, Report.Clear v.literal := fun v hv => (hvalues v hv).literal
  -- One value, and an operand that does not suit its operator.
  have hspaced : ∀ {sign s}, Report.Clear sign → Report.Clear s →
      Report.Clear (column.toList ++ ' ' :: sign ++ ' ' :: s) := fun hsign hs =>
    clear_between hcolumn (clear_cons.2 ⟨by decide, hsign⟩) (clear_cons.2 ⟨by decide, hs⟩)
  have hlisting := operand.clear_listing
  cases operand with
  | scalar v =>
    have hv := hliteral v (List.mem_singleton_self v)
    cases operator <;> exact hspaced (Operator.clear_sign _) hv
  | list vs =>
    have hlist : Report.Clear ('(' :: joinText ", ".toList (vs.map Value.literal) ++ [')']) :=
      clear_append.2 ⟨clear_cons.2 ⟨by decide, clear_joinText (by decide) <|
        List.forall_mem_map.2 hliteral⟩, by decide⟩
    cases operator with
    | isIn | like => exact clear_between hcolumn (by decide) hlist
    | _ => exact hspaced (Operator.clear_title _) hlisting
  | range low high =>
    cases operator with
    | between =>
      have hlow := hliteral low (List.mem_cons_self ..)
      have hhigh := hliteral high (List.mem_cons_of_mem _ (List.mem_singleton_self _))
      have hbetween := clear_between hcolumn (show Report.Clear " BETWEEN ".toList by decide) hlow
      exact clear_between hbetween (by decide) hhigh
    | _ => exact hspaced (Operator.clear_title _) hlisting

theorem Predicate.Clear.text {p : Predicate} (h : p.Clear) : Report.Clear p.text := by
  have hjoined : ∀ {l r connective}, Report.Clear l → Report.Clear r → Report.Clear connective →
      Report.Clear ('(' :: l ++ connective ++ r ++ [')']) := fun hl hr hconnective =>
    clear_between (clear_append.2 ⟨clear_cons.2 ⟨by decide, hl⟩, hconnective⟩) hr (by decide)
  induction p with
  | compare c => exact Comparison.Clear.text h
  | and l r ihl ihr => exact hjoined (ihl h.1) (ihr h.2) (by decide)
  | or l r ihl ihr => exact hjoined (ihl h.1) (ihr h.2) (by decide)
  | not p ih => exact clear_append.2 ⟨by decide, ih h⟩

end RowQuery
