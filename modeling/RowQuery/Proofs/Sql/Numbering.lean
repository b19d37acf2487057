import RowQuery.Proofs.Sql.Hiding

/-!
# Places line up with values

A rendered condition is read here as its reader gets it, as a text. It is cut into *glyphs*: outside
of quoted names a dollar sign is the place of a value, with the digits behind it, and any other
character stands for itself. What lies within a quoted name is never a place, whatever characters
the name has, since its quotes are doubled and so come in pairs.

The places of a text are numbered from left to right, and the values to bind are those of the
comparisons, from left to right. A cut may not run across the seams of the pieces that a condition
is made of: `Cuts` says that the glyphs of pieces are those of each piece, one behind the other,
whatever comes next. There is one lemma for each way to put pieces together and one for comparisons.

Places are counted in machine words. So the numbers are one by one the numbers behind the places
that are there already, up to the largest word, and from there on they start over at zero.

* `text_glyphs`: a cut loses nothing;
* `Cuts.between`, `Cuts.join`: pieces around a text, and pieces with separators;
* `cuts_pieces`: the glyphs of a condition;
* `map_mod_range'_eq_iff`: when the numbers of places start over;
* `places_line_up`: the numbers of the places, the values, and the text with question marks;
* `places_start_over`: a condition whose only place has the number zero.
-/

namespace RowQuery

namespace Sql

/-! ## Glyphs -/

/-- A unit of the text of a condition. -/
inductive Glyph
  /-- A character that stands for itself. -/
  | char (c : Char)
  /-- The place of a value: a dollar sign and the digits behind it. -/
  | place (digits : List Char)
deriving DecidableEq

namespace Glyph

/-- The glyph as it stands in the text. -/
def text : Glyph → List Char
  | char c => [c]
  | place digits => '$' :: digits

/-- The glyph with a question mark for the place of a value. -/
def questioned : Glyph → List Char
  | char c => [c]
  | place _ => ['?']

/-- The digits of a place. -/
def digits? : Glyph → Option (List Char)
  | char _ => none
  | place digits => some digits

end Glyph

/-- Cuts a text that begins inside or outside of a quoted name. Each quote leads in or out; between
    two quotes that stand for one no character is passed. -/
def glyphs : Bool → List Char → List Glyph
  | _, [] => []
  | quoted, c :: s =>
    if c = '"' then .char c :: glyphs (!quoted) s
    else if c = '$' ∧ quoted = false then
      .place (s.takeWhile Char.isDigit) :: glyphs quoted (s.dropWhile Char.isDigit)
    else .char c :: glyphs quoted s
termination_by _ s => s.length
decreasing_by
  · exact Nat.lt_succ_self _
  · exact Nat.lt_succ_of_le (List.dropWhile_suffix _).length_le
  · exact Nat.lt_succ_self _

variable {quoted : Bool} {n : Nat} {s rest : List Char}

theorem glyphs_quote (quoted : Bool) (s : List Char) :
    glyphs quoted ('"' :: s) = .char '"' :: glyphs (!quoted) s := by
  rw [glyphs, if_pos rfl]

theorem glyphs_char {c : Char} (hc : c ≠ '"') (hplace : c = '$' → quoted = true) (s : List Char) :
    glyphs quoted (c :: s) = .char c :: glyphs quoted s := by
  rw [glyphs, if_neg hc, if_neg]
  rintro ⟨hdollar, houtside⟩
  rw [hplace hdollar] at houtside
  cases houtside

/-- A place reaches as far as digits do. -/
theorem glyphs_place {digits : List Char} (hdigits : ∀ c ∈ digits, c.isDigit = true)
    (hr : Ended rest) :
    glyphs false ('$' :: (digits ++ rest)) = .place digits :: glyphs false rest := by
  obtain ⟨htake, hdrop⟩ := take_run (by rintro c (rfl | rfl | rfl) <;> rfl) hdigits hr
  rw [glyphs, if_neg (by decide), if_pos ⟨rfl, rfl⟩, htake, hdrop]

/-- A cut loses nothing. -/
theorem text_glyphs (quoted : Bool) (s : List Char) :
    (glyphs quoted s).flatMap Glyph.text = s := by
  fun_induction glyphs quoted s with
  | case1 => rfl
  | case2 quoted s ih => rw [List.flatMap_cons, ih, Glyph.text, List.singleton_append]
  | case3 quoted c s _ hplace ih =>
    rw [List.flatMap_cons, ih, Glyph.text, List.cons_append, List.takeWhile_append_dropWhile,
      hplace.1]
  | case4 quoted c s _ _ ih => rw [List.flatMap_cons, ih, Glyph.text, List.singleton_append]

/-! ## Text between places -/

/-- Text that has no place in it and that leaves every name it enters. -/
def Plain (s : List Char) : Prop :=
  ∀ rest, glyphs false (s ++ rest) = s.map .char ++ glyphs false rest

namespace Plain

theorem append {s t : List Char} (hs : Plain s) (ht : Plain t) : Plain (s ++ t) := by
  intro rest
  rw [List.append_assoc, hs, ht, List.map_append, List.append_assoc]

/-- Text without quotes and dollar signs. -/
theorem of_all (h : s.all (fun c => c != '"' && c != '$') = true) : Plain s := by
  intro rest
  induction s with
  | nil => rfl
  | cons c s ih =>
    rw [List.all_cons, Bool.and_eq_true, Bool.and_eq_true, bne_iff_ne, bne_iff_ne] at h
    obtain ⟨⟨hquote, hdollar⟩, hs⟩ := h
    rw [List.cons_append, glyphs_char hquote fun h => absurd h hdollar, ih hs]
    rfl

/-- A quoted name, whatever characters it has. -/
theorem identifier (name : String) : Plain (identifier name) := by
  intro rest
  have hinside : ∀ s : List Char,
      glyphs true (s.flatMap (fun c => if c = '"' then ['"', '"'] else [c]) ++ '"' :: rest) =
        (s.flatMap fun c => if c = '"' then ['"', '"'] else [c]).map .char ++
          .char '"' :: glyphs false rest := by
    intro s
    induction s with
    | nil => exact glyphs_quote true rest
    | cons c s ih =>
      rw [List.flatMap_cons, List.append_assoc]
      by_cases hc : c = '"'
      · -- The first quote leads out of the name, and the second one back in.
        rw [if_pos hc, List.cons_append, List.singleton_append, glyphs_quote, glyphs_quote]
        exact congrArg (fun gs => .char '"' :: .char '"' :: gs) ih
      · rw [if_neg hc, List.singleton_append, glyphs_char hc fun _ => rfl, ih]
        rfl
  simp [Sql.identifier, glyphs_quote, hinside name.toList]

end Plain

/-! ## The glyphs of pieces -/

variable {number : Nat → Nat}

/-- The glyphs of pieces behind `n` places, when the numbers of places are given. -/
def placed (number : Nat → Nat) (n : Nat) : List Piece → List Glyph
  | [] => []
  | .raw s :: ps => s.map .char ++ placed number n ps
  | .bind _ :: ps => .place (Decimal.natText (number (n + 1))) :: placed number (n + 1) ps

theorem placed_append (n : Nat) (ps qs : List Piece) : placed number n (ps ++ qs) =
    placed number n ps ++ placed number (n + (values ps).length) qs := by
  induction ps generalizing n with
  | nil => rfl
  | cons p ps ih =>
    cases p with
    | raw s => exact (congrArg (s.map .char ++ ·) (ih n)).trans (List.append_assoc ..).symm
    | bind v =>
      rw [List.cons_append, placed, placed, ih, values_bind, List.length_cons, Nat.add_assoc,
        Nat.add_comm 1, List.cons_append]

/-- There is one place for each value, and the places are numbered from left to right. -/
theorem digits_placed (n : Nat) (ps : List Piece) :
    (placed number n ps).filterMap Glyph.digits? =
      (List.range' (n + 1) (values ps).length).map fun i => Decimal.natText (number i) := by
  induction ps generalizing n with
  | nil => rfl
  | cons p ps ih =>
    cases p with
    | raw s =>
      have hchars : (s.map Glyph.char).filterMap Glyph.digits? = [] := by
        rw [List.filterMap_map, List.filterMap_eq_nil_iff]
        exact fun _ _ => rfl
      rw [placed, List.filterMap_append, hchars, List.nil_append, ih, values_raw]
    | bind v =>
      rw [placed, List.filterMap_cons, ih, values_bind, List.length_cons, List.range'_succ]
      rfl

/-- With question marks for the places, the numbers do not matter. -/
theorem questioned_placed (marks : Nat → List Char) (hmarks : ∀ i, marks i = ['?']) (n k : Nat)
    (ps : List Piece) : (placed number n ps).flatMap Glyph.questioned = render marks k ps := by
  induction ps generalizing n k with
  | nil => rfl
  | cons p ps ih =>
    cases p with
    | raw s =>
      have hchars : (s.map Glyph.char).flatMap Glyph.questioned = s := by
        rw [List.flatMap_map]
        exact List.flatMap_singleton' s
      rw [placed, List.flatMap_append, hchars, ih n k, render]
    | bind v => rw [placed, List.flatMap_cons, ih (n + 1) (k + 1), render, Glyph.questioned, hmarks]

/-- The text of pieces is cut into the glyphs of the pieces, wherever the count of places has come
    to, whatever numbers they have and whatever comes next. -/
def Cuts (ps : List Piece) : Prop :=
  ∀ (number : Nat → Nat) (n : Nat) (rest : List Char), Ended rest →
    glyphs false (render (fun i => mark .numbered (number i)) n ps ++ rest) =
      placed number n ps ++ glyphs false rest

/-- A text begins with a character in front of which a number ends. -/
theorem Ended.of_append {s t : List Char} (h : Ended s) (hs : s ≠ []) : Ended (s ++ t) := by
  obtain ⟨c, s, rfl⟩ := List.exists_cons_of_ne_nil hs
  exact h

namespace Cuts

variable {ps qs : List Piece}

theorem nil : Cuts [] :=
  fun _ _ _ _ => rfl

theorem raw (hs : Plain s) (h : Cuts ps) : Cuts (.raw s :: ps) := by
  intro number n rest hr
  rw [render, placed, List.append_assoc, hs, h number n rest hr, List.append_assoc]

theorem bind (v : Value) : Cuts [.bind v] := by
  intro number n rest hr
  show glyphs false ('$' :: (Decimal.natText (number (n + 1)) ++ [] ++ rest)) = _
  rw [List.append_nil, glyphs_place (fun _ => Decimal.isDigit_of_mem_natText) hr]
  rfl

/-- Pieces in front of a text and pieces behind it. -/
theorem between (h : Cuts ps) (hs : Plain s) (hended : Ended s) (hne : s ≠ []) (hq : Cuts qs) :
    Cuts (ps ++ .raw s :: qs) := by
  intro number n rest hr
  have htext : Ended (render (fun i => mark .numbered (number i)) (n + (values ps).length)
      (.raw s :: qs) ++ rest) := by
    rw [render, List.append_assoc]
    exact hended.of_append hne
  rw [render_append, List.append_assoc, h number n _ htext, hq.raw hs number _ rest hr,
    placed_append, List.append_assoc]

/-- Pieces with a separator between them. -/
theorem join {separator : String} (hs : Plain separator.toList) (hended : Ended separator.toList)
    (hne : separator.toList ≠ []) {pss : List (List Piece)} (h : ∀ ps ∈ pss, Cuts ps) :
    Cuts (joinPieces separator pss) := by
  induction pss with
  | nil => exact nil
  | cons ps pss ih =>
    obtain ⟨hps, hpss⟩ := List.forall_mem_cons.1 h
    cases pss with
    | nil => exact hps
    | cons qs qss => exact hps.between hs hended hne (ih hpss)

/-- Pieces in brackets, with text in front of the opening one. -/
theorem bracketed (hs : Plain s) (h : Cuts ps) : Cuts (.raw s :: ps ++ [.raw [')']]) :=
  (h.raw hs).between (.of_all rfl) (by simp [Ended]) (List.cons_ne_nil _ _) nil

end Cuts

/-- A comparison is cut at its seams. -/
theorem cuts_comparisonPieces (c : Comparison) : Cuts (comparisonPieces c) := by
  obtain ⟨column, op, operand⟩ := c
  have hcolumn : ∀ {s : List Char}, s.all (fun c => c != '"' && c != '$') = true →
      Plain (identifier column ++ s) := fun h => (Plain.identifier column).append (.of_all h)
  have hscalar (v : Value) :
      Cuts [.raw (identifier column ++ ' ' :: (sign op).toList ++ [' ']), .bind v] := by
    rw [List.append_assoc]
    exact (Cuts.bind v).raw (hcolumn (by cases op <;> rfl))
  have hnone : Cuts [.raw "FALSE".toList] := Cuts.nil.raw (.of_all rfl)
  cases operand with
  | scalar v =>
    cases op with
    | is =>
      cases v with
      | null => exact Cuts.nil.raw (hcolumn rfl)
      | bool b => cases b <;> exact Cuts.nil.raw (hcolumn rfl)
      | _ => exact hscalar _
    | _ => exact hscalar v
  | list vs =>
    cases op with
    | like =>
      refine .bracketed (.of_all rfl) (.join (.of_all rfl) (by simp [Ended]) (by decide) ?_)
      exact List.forall_mem_map.2 fun v _ => (Cuts.bind v).raw (hcolumn rfl)
    | isIn =>
      refine .bracketed (hcolumn rfl) (.join (.of_all rfl) (by simp [Ended]) (by decide) ?_)
      exact List.forall_mem_map.2 fun v _ => Cuts.bind v
    | _ => exact hnone
  | range low high =>
    cases op with
    | between =>
      exact ((Cuts.bind low).between (.of_all rfl) (by simp [Ended]) (by decide)
        (Cuts.bind high)).raw (hcolumn rfl)
    | _ => exact hnone

/-- A condition is cut at its seams. -/
theorem cuts_pieces (p : Predicate) : Cuts (pieces p) := by
  induction p with
  | compare c => exact cuts_comparisonPieces c
  | and l r ihl ihr | or l r ihl ihr =>
    refine Cuts.bracketed (.of_all rfl) ?_
    exact ihl.between (.of_all rfl) (by simp [Ended]) (by decide) ihr
  | not p ih => exact ih.bracketed (.of_all rfl)

/-! ## Numbers that start over -/

/-- Numbers taken modulo a size are the numbers themselves as long as they stay below it. -/
theorem map_mod_range'_eq_iff {size start count : Nat} (hstart : start < size) :
    ((List.range' (start + 1) count).map fun i => Decimal.natText (i % size)) =
        (List.range' (start + 1) count).map Decimal.natText ↔
      start + count < size := by
  rw [List.map_inj_left]
  constructor
  · intro h
    by_contra hover
    -- The size itself is among the numbers, and is taken for zero.
    have htext := h size (List.mem_range'_1.2 (by omega))
    have hzero : size % size = size := by
      rw [← Decimal.value_natText (size % size), htext, Decimal.value_natText]
    rw [Nat.mod_self] at hzero
    omega
  · intro h i hi
    have hlt : i < size := by
      have := List.mem_range'_1.1 hi
      omega
    rw [Nat.mod_eq_of_lt hlt]

/-- In the text of a predicate the places outside of quoted names are numbered one by one from left
    to right, from the number behind `start` on, and there are as many as values to bind. These are
    the values that the comparisons bind, from left to right. Rendered with question marks, a
    predicate has the same values and the same text, with a question mark for each place. The
    numbers are machine words. They are those of the count if, and only if, it fits into a word. -/
theorem places_line_up (p : Predicate) (start : UInt64) :
    let numbered := SqlFragment.ofPredicate .numbered start p
    let positional := SqlFragment.ofPredicate .positional start p
    let cut := glyphs false numbered.text.toList
    let counted := List.range' (start.toNat + 1) numbered.parameters.length
    cut.flatMap Glyph.text = numbered.text.toList ∧
      (cut.filterMap Glyph.digits? = counted.map Decimal.natText ↔
        start.toNat + numbered.parameters.length < UInt64.size) ∧
      cut.filterMap Glyph.digits? = counted.map (fun i => Decimal.natText (i % UInt64.size)) ∧
      numbered.parameters = p.comparisons.flatMap Comparison.bound ∧
      positional.parameters = numbered.parameters ∧
      positional.text = String.ofList (cut.flatMap Glyph.questioned) := by
  intro numbered positional cut counted
  have hvalues : numbered.parameters = values (pieces p) :=
    SqlFragment.parameters_ofPredicate .numbered start p
  have hcut : cut = placed (· % UInt64.size) start.toNat (pieces p) := by
    have htext := cuts_pieces p (· % UInt64.size) start.toNat [] nofun
    rw [List.append_nil, glyphs, List.append_nil] at htext
    simp only [cut, numbered, SqlFragment.text_ofPredicate, String.toList_ofList]
    exact htext
  have hdigits : cut.filterMap Glyph.digits? =
      counted.map fun i => Decimal.natText (i % UInt64.size) := by
    rw [hcut, digits_placed, ← hvalues]
  refine ⟨text_glyphs false _, ?_, hdigits, hvalues.trans (values_pieces p), ?_, ?_⟩
  · rw [hdigits]
    exact map_mod_range'_eq_iff start.toNat_lt
  · rw [hvalues]
    exact SqlFragment.parameters_ofPredicate .positional start p
  · rw [hcut, questioned_placed (wordMark .positional) (fun _ => rfl) _ start.toNat]
    exact SqlFragment.text_ofPredicate .positional start p

/-- Behind the largest word a place has the number zero, and not the next one. -/
theorem places_start_over :
    let start : UInt64 := 18446744073709551615
    let fragment :=
      SqlFragment.ofPredicate .numbered start (.compare ⟨"id", .eq, .scalar (.int 1)⟩)
    fragment.text = "\"id\" = $0" ∧
      (glyphs false fragment.text.toList).filterMap Glyph.digits? ≠
        (List.range' (start.toNat + 1) fragment.parameters.length).map Decimal.natText := by
  intro start fragment
  have htext : fragment.text = "\"id\" = $0" := by decide
  have hcut : glyphs false fragment.text.toList =
      "\"id\" = ".toList.map .char ++ [.place ['0']] := by
    rw [htext]
    simp [glyphs]
  refine ⟨htext, ?_⟩
  rw [hcut]
  decide

end Sql

end RowQuery
