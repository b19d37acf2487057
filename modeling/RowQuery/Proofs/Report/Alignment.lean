import Mathlib.Data.List.Forall2
import Mathlib.Data.List.GetD
import RowQuery.Proofs.Page.Address
import RowQuery.Proofs.Report.Clear

/-!
# Rows in columns

In the table of a page every column has one offset, counted in characters, at which its name stands
in the heading and its cell in the line of each row. A cell is cut to its greatest width before the
widths of the columns are taken, so it always fits; then it is filled up, and the cells of a line
are put together. Last the white space at the end of the line is cut off, with the whole of a cell
if there is nothing else in it. A line is therefore read as if spaces went on behind its end: a cell
stands at its offset if each of its characters is found there, or is white space that was cut off.

* `charAt`, `ShowsAt`, `InColumns`: how a line is read, and what it shows in its columns;
* `inColumns_laid`: cells that are filled up stand in columns;
* `InColumns.trimEnd`: and they still do when the white space behind them is cut off;
* `splitAll_unlines`: lines without a line break in them are the lines of their text;
* `pageText_aligned`: the table of a page has its cells in columns.
-/

namespace RowQuery

namespace Text

variable {s blank : List Char}

/-- What is trimmed behind is white space, and the rest is kept. -/
theorem exists_trimEnd_append (s : List Char) :
    ∃ blank, (∀ c ∈ blank, isSpace c = true) ∧ trimEnd s ++ blank = s := by
  refine ⟨(s.reverse.takeWhile isSpace).reverse, fun c hc => ?_, ?_⟩
  · exact List.all_eq_true.1 List.all_takeWhile c (List.mem_reverse.1 hc)
  · rw [trimEnd, ← List.reverse_append, List.takeWhile_append_dropWhile, List.reverse_reverse]

theorem trimEnd_append (h : ∀ c ∈ blank, isSpace c = true) (s : List Char) :
    trimEnd (s ++ blank) = trimEnd s := by
  rw [trimEnd, List.reverse_append,
    List.dropWhile_append_of_pos fun c hc => h c (List.mem_reverse.1 hc), trimEnd]

end Text

namespace Report

open Text (isSpace trimEnd splitAll)

variable {line s : List Char} {cells : List (List Char)} {offset : Nat → Nat}
  {width : Nat} {widths : List Nat}

/-! ## Lines and what they show -/

/-- The character at a place of a line. Behind the end of the line are spaces. -/
def charAt (line : List Char) (i : Nat) : Char :=
  line.getD i ' '

/-- From an offset on, a line shows a text: every character of the text has its place in the line,
    or is white space that the line is too short for. -/
def ShowsAt (line : List Char) (offset : Nat) (s : List Char) : Prop :=
  ∀ i c, s[i]? = some c →
    charAt line (offset + i) = c ∨ line.length ≤ offset + i ∧ isSpace c = true

/-- A line shows cells in columns, from the offset of its column on each. Behind a cell there are
    spaces up to the offset of the next column, two at least, and behind the last column there is
    nothing. -/
structure InColumns (offset : Nat → Nat) (cells : List (List Char)) (line : List Char) : Prop where
  start : offset 0 = 0
  room : ∀ k s, cells[k]? = some s → offset k + s.length + 2 ≤ offset (k + 1)
  shown : ∀ k s, cells[k]? = some s → ShowsAt line (offset k) s
  blank : ∀ k s, cells[k]? = some s →
    ∀ i, offset k + s.length ≤ i → i < offset (k + 1) → charAt line i = ' '
  length_le : line.length ≤ offset cells.length

theorem charAt_append_left {i : Nat} (h : i < line.length) (r : List Char) :
    charAt (line ++ r) i = charAt line i :=
  List.getD_append line r ' ' i h

theorem charAt_append_right {n : Nat} (hn : line.length = n) (r : List Char) (i : Nat) :
    charAt (line ++ r) (n + i) = charAt r i := by
  subst hn
  rw [charAt, List.getD_append_right _ _ _ _ (Nat.le_add_right _ _), Nat.add_sub_cancel_left,
    charAt]

theorem charAt_of_le {i : Nat} (h : line.length ≤ i) : charAt line i = ' ' :=
  List.getD_eq_default line ' ' h

/-! ## Cells filled up -/

theorem length_padRight (h : s.length ≤ width) : (padRight width s).length = width := by
  rw [padRight, List.length_append, List.length_replicate]
  omega

theorem charAt_padRight {i : Nat} {c : Char} (h : s[i]? = some c) :
    charAt (padRight width s) i = c := by
  have hi : i < s.length := (List.getElem?_eq_some_iff.1 h).1
  rw [padRight, charAt_append_left hi, charAt, List.getD_eq_getElem?_getD, h, Option.getD_some]

theorem charAt_padRight_of_le {i : Nat} (h : s.length ≤ i) : charAt (padRight width s) i = ' ' := by
  obtain ⟨j, rfl⟩ := Nat.exists_eq_add_of_le h
  rw [padRight, charAt_append_right rfl, charAt, List.getD_eq_getElem?_getD,
    List.getElem?_replicate]
  split <;> rfl

/-- The offsets of columns that have these widths and are two blanks apart. -/
def columnOffset : List Nat → Nat → Nat
  | width :: widths, k + 1 => width + 2 + columnOffset widths k
  | _, _ => 0

theorem columnOffset_zero (widths : List Nat) : columnOffset widths 0 = 0 := by
  cases widths <;> rfl

theorem columnOffset_succ (width : Nat) (widths : List Nat) (k : Nat) :
    columnOffset (width :: widths) (k + 1) = width + 2 + columnOffset widths k :=
  rfl

/-- Cells in their columns, each with two blanks behind. -/
def laid (widths : List Nat) (cells : List (List Char)) : List Char :=
  (List.zipWith (fun width s => padRight (width + 2) s) widths cells).flatten

/-- One more column in front moves the others by its width. -/
theorem InColumns.cons (hs : s.length ≤ width) (h : InColumns (columnOffset widths) cells line) :
    InColumns (columnOffset (width :: widths)) (s :: cells) (padRight (width + 2) s ++ line) := by
  have hpad : (padRight (width + 2) s).length = width + 2 := length_padRight (by omega)
  refine ⟨rfl, ?room, ?shown, ?blank, ?length⟩
  case room =>
    rintro (_ | k) t ht
    · cases ht
      rw [columnOffset_succ, columnOffset_zero, columnOffset_zero]
      omega
    · have hroom := h.room k t ht
      rw [columnOffset_succ, columnOffset_succ]
      omega
  case shown =>
    rintro (_ | k) t ht i c hc
    · cases ht
      have hi : i < s.length := (List.getElem?_eq_some_iff.1 hc).1
      left
      rw [columnOffset_zero, Nat.zero_add, charAt_append_left (by omega), charAt_padRight hc]
    · rw [columnOffset_succ, Nat.add_assoc, charAt_append_right hpad, List.length_append, hpad]
      exact (h.shown k t ht i c hc).imp_right fun hcut => ⟨by omega, hcut.2⟩
  case blank =>
    rintro (_ | k) t ht i hi hlt
    · cases ht
      rw [columnOffset_zero, Nat.zero_add] at hi
      rw [columnOffset_succ, columnOffset_zero] at hlt
      rw [charAt_append_left (by omega), charAt_padRight_of_le hi]
    · rw [columnOffset_succ] at hi hlt
      obtain ⟨j, rfl⟩ := Nat.exists_eq_add_of_le (show width + 2 ≤ i by omega)
      rw [charAt_append_right hpad]
      exact h.blank k t ht j (by omega) (by omega)
  case length =>
    rw [List.length_append, hpad, List.length_cons, columnOffset_succ]
    exact Nat.add_le_add_left h.length_le _

/-- Cells that are no wider than their columns stand in columns when they are filled up. -/
theorem inColumns_laid (h : List.Forall₂ (fun width s => s.length ≤ width) widths cells) :
    InColumns (columnOffset widths) cells (laid widths cells) := by
  induction h with
  | nil => exact ⟨rfl, nofun, nofun, nofun, Nat.le_refl 0⟩
  | cons hs _ ih => exact ih.cons hs

/-! ## White space cut off -/

theorem isSpace_charAt {blank : List Char} (h : ∀ c ∈ blank, isSpace c = true) (i : Nat) :
    isSpace (charAt blank i) = true := by
  rw [charAt, List.getD_eq_getElem?_getD]
  cases hi : blank[i]? with
  | none => rfl
  | some c => exact h c (List.mem_of_getElem? hi)

/-- Where a line has been cut, spaces stand for white space. -/
theorem charAt_trimEnd (line : List Char) (i : Nat) :
    charAt (trimEnd line) i = charAt line i ∨ (trimEnd line).length ≤ i ∧
      charAt (trimEnd line) i = ' ' ∧ isSpace (charAt line i) = true := by
  obtain ⟨blank, hblank, hline⟩ := Text.exists_trimEnd_append line
  rcases Nat.lt_or_ge i (trimEnd line).length with hi | hi
  · left
    rw [← charAt_append_left hi blank, hline]
  · refine .inr ⟨hi, charAt_of_le hi, ?_⟩
    obtain ⟨j, rfl⟩ := Nat.exists_eq_add_of_le hi
    have hcut : charAt (trimEnd line ++ blank) ((trimEnd line).length + j) = charAt blank j :=
      charAt_append_right rfl blank j
    rw [hline] at hcut
    rw [hcut]
    exact isSpace_charAt hblank j

theorem length_trimEnd_le (line : List Char) : (trimEnd line).length ≤ line.length := by
  obtain ⟨blank, -, hline⟩ := Text.exists_trimEnd_append line
  calc (trimEnd line).length ≤ (trimEnd line ++ blank).length := by
        rw [List.length_append]
        omega
    _ = line.length := by rw [hline]

/-- Cells stand in their columns when the white space behind them has been cut off. -/
theorem InColumns.trimEnd (h : InColumns offset cells line) :
    InColumns offset cells (trimEnd line) := by
  refine ⟨h.start, h.room, ?shown, ?blank, Nat.le_trans (length_trimEnd_le line) h.length_le⟩
  case shown =>
    intro k t ht i c hc
    rcases h.shown k t ht i c hc with hshown | ⟨hshort, hspace⟩
    · refine (charAt_trimEnd line (offset k + i)).imp (·.trans hshown) ?_
      rintro ⟨hcut, -, hspace⟩
      exact ⟨hcut, hshown ▸ hspace⟩
    · exact .inr ⟨Nat.le_trans (length_trimEnd_le line) hshort, hspace⟩
  case blank =>
    intro k t ht i hi hlt
    rcases charAt_trimEnd line i with hkept | ⟨-, hcut, -⟩
    · rw [hkept, h.blank k t ht i hi hlt]
    · exact hcut

theorem joinText_append {separator : List Char} {ss : List (List Char)} (h : ss ≠ []) :
    joinText separator ss ++ separator = ss.flatMap (· ++ separator) := by
  obtain ⟨s, ss, rfl⟩ := List.exists_cons_of_ne_nil h
  induction ss generalizing s with
  | nil => rw [joinText, List.flatMap_singleton]
  | cons t ss ih =>
    rw [List.flatMap_cons, ← ih t (List.cons_ne_nil _ _), joinText_cons_cons]
    simp only [List.append_assoc]

theorem padRight_add_two (h : s.length ≤ width) :
    padRight (width + 2) s = padRight width s ++ "  ".toList := by
  have hlength : width + 2 - s.length = width - s.length + 2 := by omega
  rw [padRight, padRight, hlength, List.append_assoc, List.replicate_add]
  rfl

theorem laid_eq (h : List.Forall₂ (fun width s => s.length ≤ width) widths cells) :
    laid widths cells = (List.zipWith padRight widths cells).flatMap (· ++ "  ".toList) := by
  induction h with
  | nil => rfl
  | cons hs _ ih =>
    rw [List.zipWith_cons_cons, List.flatMap_cons, ← ih, laid, laid, List.zipWith_cons_cons,
      List.flatten_cons, padRight_add_two hs]

/-- The cells of a line are put together as they stand in their columns. -/
theorem joinCells_eq (h : List.Forall₂ (fun width s => s.length ≤ width) widths cells) :
    joinCells widths cells = trimEnd (laid widths cells) := by
  rw [joinCells, laid_eq h]
  rcases List.zipWith padRight widths cells with _ | ⟨s, ss⟩
  · rfl
  · -- The last cell has no blanks behind it, but these would be cut off.
    have hblank : ∀ c ∈ "  ".toList, isSpace c = true := fun c hc =>
      List.eq_of_mem_replicate (n := 2) hc ▸ rfl
    rw [← joinText_append (List.cons_ne_nil _ _), Text.trimEnd_append hblank]

theorem inColumns_joinCells (h : List.Forall₂ (fun width s => s.length ≤ width) widths cells) :
    InColumns (columnOffset widths) cells (joinCells widths cells) :=
  joinCells_eq h ▸ (inColumns_laid h).trimEnd

/-! ## Widths -/

theorem length_truncate_le (hwidth : 3 ≤ width) (s : List Char) :
    (truncate width s).length ≤ width := by
  rw [truncate]
  split
  · rw [List.length_append, List.length_take]
    exact Nat.add_le_of_le_sub hwidth (Nat.min_le_left _ _)
  · exact Nat.le_of_not_lt ‹_›

theorem truncate_eq_self (h : s.length ≤ width) : truncate width s = s :=
  if_neg (Nat.not_lt.2 h)

/-- A column is as wide as its name and as each of its cells. -/
theorem length_le_columnWidth (name : String) (cells : List (List Char)) :
    name.toList.length ≤ columnWidth name cells ∧
      ∀ s ∈ cells, s.length ≤ columnWidth name cells := by
  -- The width so far only grows, so it is generalized.
  rw [columnWidth]
  generalize name.toList.length = n
  induction cells generalizing n with
  | nil => exact ⟨Nat.le_refl n, nofun⟩
  | cons s cells ih =>
    obtain ⟨hmax, hcells⟩ := ih (max n s.length)
    refine ⟨Nat.le_trans (Nat.le_max_left _ _) hmax, List.forall_mem_cons.2 ⟨?_, hcells⟩⟩
    exact Nat.le_trans (Nat.le_max_right _ _) hmax

/-! ## The lines of a table -/

variable {columns : List String} {rows : List Row}

/-- The widths of the columns of a table. -/
def columnWidths (columns : List String) (rows : List Row) : List Nat :=
  columns.map fun c => columnWidth c (rows.map (cellText · c))

/-- The line of names in a table. -/
def headingLine (columns : List String) (rows : List Row) : List Char :=
  joinCells (columnWidths columns rows) (columns.map String.toList)

/-- The line of a row in a table. -/
def rowLine (columns : List String) (rows : List Row) (r : Row) : List Char :=
  joinCells (columnWidths columns rows) (columns.map (cellText r))

theorem rowLines_eq (h : rows ≠ []) (columns : List String) :
    rowLines false columns rows =
      headingLine columns rows :: rows.map (rowLine columns rows) := by
  rw [rowLines, if_neg (by rwa [List.isEmpty_iff])]
  rfl

/-- Texts, one for each column, stand in the columns of a table if none is wider than its
    column. -/
theorem inColumns_columnWidths {text : String → List Char}
    (h : ∀ c ∈ columns, (text c).length ≤ columnWidth c (rows.map (cellText · c))) :
    InColumns (columnOffset (columnWidths columns rows)) (columns.map text)
      (joinCells (columnWidths columns rows) (columns.map text)) :=
  inColumns_joinCells <| List.forall₂_map_left_iff.2 <| List.forall₂_map_right_iff.2 <|
    List.forall₂_same.2 h

theorem inColumns_headingLine (columns : List String) (rows : List Row) :
    InColumns (columnOffset (columnWidths columns rows)) (columns.map String.toList)
      (headingLine columns rows) :=
  inColumns_columnWidths fun c _ => (length_le_columnWidth c _).1

theorem inColumns_rowLine {r : Row} (h : r ∈ rows) :
    InColumns (columnOffset (columnWidths columns rows)) (columns.map (cellText r))
      (rowLine columns rows r) :=
  inColumns_columnWidths fun c _ => (length_le_columnWidth c _).2 _ (List.mem_map_of_mem h)

/-- Lines without a line break in them are the lines of their text. -/
theorem splitAll_unlines {ls : List (List Char)} (h : ∀ l ∈ ls, '\n' ∉ l) (r : List Char) :
    splitAll '\n' (unlines ls ++ r) = ls ++ splitAll '\n' r := by
  induction ls with
  | nil => rfl
  | cons l ls ih =>
    obtain ⟨hl, hls⟩ := List.forall_mem_cons.1 h
    rw [List.cons_append, ← ih hls, ← Text.splitAll_append hl, unlines, List.flatMap_cons,
      List.append_assoc, List.append_assoc]
    rfl

theorem not_mem_joinCells (h : ∀ s ∈ cells, '\n' ∉ s) (widths : List Nat) :
    '\n' ∉ joinCells widths cells := by
  intro hc
  rcases mem_joinCells hc with hblank | ⟨s, hs, hc⟩
  · exact absurd hblank (by decide)
  · exact h s hs hc

/-- In a report on rows, an empty line follows the lines of the table. -/
theorem splitAll_pageText {p : Page Row} (h : ∀ l ∈ rowLines false columns p.rows, '\n' ∉ l) :
    ∃ below, splitAll '\n' (pageText false columns p) =
      rowLines false columns p.rows ++ [] :: below := by
  rw [pageText, List.append_assoc, List.append_assoc, unlines, List.flatMap_append]
  exact ⟨_, splitAll_unlines h _⟩

/-- In the table of a page with rows there is a line of names and a line for each row, and every
    column has an offset at which all of them show what is theirs: its name, or a cell of at most
    thirty-two characters. -/
theorem pageText_aligned (columns : List String) (p : Page Row) (hrows : p.rows ≠ [])
    (hnames : ∀ c ∈ columns, '\n' ∉ c.toList)
    (hcells : ∀ r ∈ p.rows, ∀ c ∈ columns, '\n' ∉ (r.value c).cell) :
    ∃ offset heading lines below,
      splitAll '\n' (pageText false columns p) = heading :: lines ++ [] :: below ∧
        InColumns offset (columns.map String.toList) heading ∧
        List.Forall₂ (fun r line => InColumns offset (columns.map (cellText r)) line)
          p.rows lines ∧
        ∀ r ∈ p.rows, ∀ c ∈ columns, (cellText r c).length ≤ 32 ∧
          ((r.value c).cell.length ≤ 32 → cellText r c = (r.value c).cell) := by
  have hcellText : ∀ r ∈ p.rows, ∀ c ∈ columns, '\n' ∉ cellText r c := fun r hr c hc hmem =>
    (mem_truncate hmem).elim (hcells r hr c hc) (by decide)
  have hlines : ∀ l ∈ rowLines false columns p.rows, '\n' ∉ l := by
    rw [rowLines_eq hrows]
    refine List.forall_mem_cons.2 ⟨?_, List.forall_mem_map.2 fun r hr => ?_⟩
    · exact not_mem_joinCells (List.forall_mem_map.2 hnames) _
    · exact not_mem_joinCells (List.forall_mem_map.2 (hcellText r hr)) _
  obtain ⟨below, hbelow⟩ := splitAll_pageText hlines
  refine ⟨columnOffset (columnWidths columns p.rows), headingLine columns p.rows,
    p.rows.map (rowLine columns p.rows), below, ?split, inColumns_headingLine columns p.rows,
    ?aligned, fun r _ c _ => ⟨length_truncate_le (by decide) _, truncate_eq_self⟩⟩
  case split => rw [hbelow, rowLines_eq hrows]
  case aligned =>
    exact List.forall₂_map_right_iff.2 (List.forall₂_same.2 fun _ => inColumns_rowLine)

/-- A page of three rows: the line of the first would end in a tab, the second has no name and the
    widest note that is shown in full, and the note of the third is one character longer. -/
theorem pageText_aligned_cut_note :
    let columns := ["naïve", "note"]
    let rows : List Row := [Named.ofList [("naïve", .text "日本"), ("note", .text "x\t")],
      Named.ofList [("note", .text "0123456789 0123456789 0123456789")],
      Named.ofList [("naïve", .int 7), ("note", .text "0123456789 0123456789 0123456789.")]]
    let p : Page Row := ⟨3, none, none, rows⟩
    rows ≠ [] ∧ (∀ c ∈ columns, '\n' ∉ c.toList) ∧
      (∀ r ∈ rows, ∀ c ∈ columns, '\n' ∉ (r.value c).cell) ∧
      ∃ offset heading lines below,
        splitAll '\n' (pageText false columns p) = heading :: lines ++ [] :: below ∧
          InColumns offset (columns.map String.toList) heading ∧
          List.Forall₂ (fun r line => InColumns offset (columns.map (cellText r)) line) rows lines ∧
          ∀ r ∈ rows, ∀ c ∈ columns, (cellText r c).length ≤ 32 ∧
            ((r.value c).cell.length ≤ 32 → cellText r c = (r.value c).cell) := by
  intro columns rows p
  have hrows : rows ≠ [] := List.cons_ne_nil _ _
  have hnames : ∀ c ∈ columns, '\n' ∉ c.toList := by decide
  have hcells : ∀ r ∈ rows, ∀ c ∈ columns, '\n' ∉ (r.value c).cell := by decide
  exact ⟨hrows, hnames, hcells, pageText_aligned columns p hrows hnames hcells⟩

end Report

end RowQuery
