import RowQuery.Filter.Sql

/-!
# Conditions in pieces

A written condition is made of *pieces*, each of them either text or the place of a value. Which
pieces it has does not depend on how far places have been counted; only the marks of its places do.
A writer that passes through a predicate writes the text of its pieces, counts on by as many places
as they have and keeps the values of these, from whatever state it begins in (`Writes`).

The writer counts in machine words. As long as its count does not start over, the places have the
numbers of a count that never does.

* `render_append`, `values_append`: pieces one behind the other;
* `Writes.seq`, `Writes.each`: parts of a condition, and parts that are made for each of a list;
* `writes_predicate`: what is written for a predicate;
* `SqlFragment.text_ofPredicate`, `SqlFragment.parameters_ofPredicate`: its fragment;
* `render_wordMark`: the numbers of places, while the count does not start over.
-/

namespace RowQuery.Sql

/-! ## Pieces -/

/-- A piece of a written condition. -/
inductive Piece
  /-- Text as it stands. -/
  | raw (s : List Char)
  /-- The place of a value. -/
  | bind (v : Value)

/-- Pieces with a separator between them. -/
def joinPieces (separator : String) : List (List Piece) → List Piece
  | [] => []
  | [p] => p
  | p :: ps => p ++ .raw separator.toList :: joinPieces separator ps

/-- The pieces of a comparison. -/
def comparisonPieces (c : Comparison) : List Piece :=
  let column := identifier c.column
  match c.operator, c.operand with
  | .is, .scalar .null => [.raw (column ++ " IS NULL".toList)]
  | .is, .scalar (.bool true) => [.raw (column ++ " IS TRUE".toList)]
  | .is, .scalar (.bool false) => [.raw (column ++ " IS FALSE".toList)]
  | .like, .list vs =>
    .raw ['('] :: joinPieces " OR " (vs.map fun v =>
      [.raw (column ++ " LIKE ".toList), .bind v]) ++ [.raw [')']]
  | .isIn, .list vs =>
    .raw (column ++ " IN (".toList) :: joinPieces ", " (vs.map fun v => [.bind v]) ++ [.raw [')']]
  | .between, .range low high =>
    [.raw (column ++ " BETWEEN ".toList), .bind low, .raw " AND ".toList, .bind high]
  | op, .scalar v => [.raw (column ++ ' ' :: (sign op).toList ++ [' ']), .bind v]
  | _, _ => [.raw "FALSE".toList]

/-- The pieces of a predicate. -/
def pieces : Predicate → List Piece
  | .compare c => comparisonPieces c
  | .and l r => .raw ['('] :: pieces l ++ .raw " AND ".toList :: pieces r ++ [.raw [')']]
  | .or l r => .raw ['('] :: pieces l ++ .raw " OR ".toList :: pieces r ++ [.raw [')']]
  | .not p => .raw "NOT (".toList :: pieces p ++ [.raw [')']]

/-- The values of pieces, in order. -/
def values (ps : List Piece) : List Value :=
  ps.filterMap fun p => match p with
    | .raw _ => none
    | .bind v => some v

@[simp] theorem values_nil : values [] = [] :=
  rfl

@[simp] theorem values_append (ps qs : List Piece) : values (ps ++ qs) = values ps ++ values qs :=
  List.filterMap_append

@[simp] theorem values_raw (s : List Char) (ps : List Piece) : values (.raw s :: ps) = values ps :=
  rfl

@[simp] theorem values_bind (v : Value) (ps : List Piece) :
    values (.bind v :: ps) = v :: values ps :=
  rfl

/-- Pieces that are made for each of several values bind these values. -/
theorem values_join {separator : String} {f : Value → List Piece} (h : ∀ v, values (f v) = [v])
    (vs : List Value) : values (joinPieces separator (vs.map f)) = vs := by
  induction vs with
  | nil => rfl
  | cons v vs ih =>
    cases vs with
    | nil => exact h v
    | cons w ws =>
      show values (f v ++ _) = _
      rw [values_append, h, values_raw, ih, List.singleton_append]

/-! ## The text of pieces -/

/-- The text of pieces behind `n` places, when the marks of places are given. -/
def render (marks : Nat → List Char) (n : Nat) : List Piece → List Char
  | [] => []
  | .raw s :: ps => s ++ render marks n ps
  | .bind _ :: ps => marks (n + 1) ++ render marks (n + 1) ps

variable {marks : Nat → List Char} {ps qs rs : List Piece}

theorem render_append (marks : Nat → List Char) (n : Nat) (ps qs : List Piece) :
    render marks n (ps ++ qs) = render marks n ps ++ render marks (n + (values ps).length) qs := by
  induction ps generalizing n with
  | nil => rfl
  | cons p ps ih =>
    cases p with
    | raw s => exact (congrArg (s ++ ·) (ih n)).trans (List.append_assoc ..).symm
    | bind v =>
      have hlength : n + (values (.bind v :: ps)).length = n + 1 + (values ps).length := by
        rw [values_bind, List.length_cons]
        omega
      rw [hlength, List.cons_append, render, render, ih, List.append_assoc]

/-- Only the marks of its own places matter to the text of pieces. -/
theorem render_congr_marks {marks' : Nat → List Char} {n : Nat}
    (h : ∀ i, n < i → i ≤ n + (values ps).length → marks i = marks' i) :
    render marks n ps = render marks' n ps := by
  induction ps generalizing n with
  | nil => rfl
  | cons p ps ih =>
    cases p with
    | raw s => rw [render, render, ih h]
    | bind v =>
      rw [values_bind, List.length_cons] at h
      rw [render, render, h (n + 1) (by omega) (by omega),
        ih fun i hi hle => h i (by omega) (by omega)]

/-- The texts of lists of pieces, behind `n` places. -/
def renderEach (marks : Nat → List Char) (n : Nat) : List (List Piece) → List (List Char)
  | [] => []
  | ps :: pss => render marks n ps :: renderEach marks (n + (values ps).length) pss

theorem joinText_renderEach (separator : String) (n : Nat) (pss : List (List Piece)) :
    joinText separator.toList (renderEach marks n pss) =
      render marks n (joinPieces separator pss) := by
  induction pss generalizing n with
  | nil => rfl
  | cons ps pss ih =>
    cases pss with
    | nil => rfl
    | cons qs qss =>
      rw [joinPieces, render_append, render, ← ih]
      exact List.append_assoc ..
      all_goals nofun

/-! ## Writing pieces -/

/-- The mark of the `n`-th value for a count in machine words. -/
def wordMark (style : Style) (n : Nat) : List Char :=
  mark style (n % UInt64.size)

/-- While the count does not start over, the places have the numbers of their values. -/
theorem render_wordMark {style : Style} {n : Nat} (h : n + (values ps).length < UInt64.size) :
    render (wordMark style) n ps = render (mark style) n ps :=
  render_congr_marks fun i _ hi => congrArg (mark style) (Nat.mod_eq_of_lt (by omega))

/-- From any state, a writer writes the text of pieces, counts their places and keeps their
    values. -/
def Writes (x : Writing) (ps : List Piece) : Prop :=
  ∀ (style : Style) (n : Nat) (vs : List Value), x.run ⟨style, .ofNat n, vs⟩ =
    (render (wordMark style) n ps,
      ⟨style, .ofNat (n + (values ps).length), vs ++ values ps⟩)

namespace Writes

variable {x y : Writing}

theorem pure (s : List Char) : Writes (pure s) [.raw s] := by
  intro style n vs
  rw [render, render, values_raw, values_nil, List.append_nil, List.append_nil]
  rfl

theorem bindValue (v : Value) : Writes (bindValue v) [.bind v] := by
  intro style n vs
  have hlast : UInt64.ofNat n + 1 = .ofNat (n + 1) := (UInt64.ofNat_add n 1).symm
  have hmark : mark style (UInt64.ofNat (n + 1)).toNat = wordMark style (n + 1) :=
    congrArg (mark style) UInt64.toNat_ofNat'
  show (mark style (UInt64.ofNat n + 1).toNat,
    Writer.mk style (UInt64.ofNat n + 1) (vs ++ [v])) = _
  rw [hlast, hmark, render, render, List.append_nil]
  rfl

/-- A part of a condition with text around it. -/
theorem map (hx : Writes x ps) (f : List Char → List Char)
    (htext : ∀ marks n, f (render marks n ps) = render marks n rs)
    (hvalues : values rs = values ps) : Writes (do return f (← x)) rs := by
  intro style n vs
  rw [StateT.run_bind, hx, hvalues]
  exact congrArg (·, _) (htext _ n)

/-- Two parts of a condition, one written after the other. -/
theorem seq (hx : Writes x ps) (hy : Writes y qs) (f : List Char → List Char → List Char)
    (htext : ∀ marks n, f (render marks n ps) (render marks (n + (values ps).length) qs) =
      render marks n rs)
    (hvalues : values rs = values ps ++ values qs) :
    Writes (do return f (← x) (← y)) rs := by
  intro style n vs
  rw [StateT.run_bind, hx]
  show StateT.run (y >>= _) _ = _
  rw [StateT.run_bind, hy, hvalues, List.length_append, Nat.add_assoc, List.append_assoc]
  exact congrArg (·, _) (htext _ n)

/-- Parts that are written for each of several values, with a separator between them and text
    around them. -/
theorem each {g : Value → Writing} {pieces : Value → List Piece} (hg : ∀ v, Writes (g v) (pieces v))
    (hone : ∀ v, values (pieces v) = [v]) (before after : List Char) (separator : String)
    (us : List Value) :
    Writes (do return before ++ joinText separator.toList (← us.mapM g) ++ after)
      (.raw before :: joinPieces separator (us.map pieces) ++ [.raw after]) := by
  have hmapM (style : Style) (n : Nat) (vs : List Value) : (us.mapM g).run ⟨style, .ofNat n, vs⟩ =
      (renderEach (wordMark style) n (us.map pieces),
        ⟨style, .ofNat (n + us.length), vs ++ us⟩) := by
    -- By induction on the values: the first of them moves the count and the parameters on.
    induction us generalizing n vs with
    | nil =>
      rw [List.append_nil]
      rfl
    | cons u us ih =>
      have hlength : n + (u :: us).length = n + 1 + us.length := by
        rw [List.length_cons]
        omega
      rw [List.mapM_cons, StateT.run_bind, hg, hone]
      show StateT.run (us.mapM g >>= _) _ = _
      rw [StateT.run_bind, ih, hlength, List.append_assoc, List.map_cons, renderEach, hone]
      rfl
  intro style n vs
  rw [StateT.run_bind, hmapM, List.cons_append, render, render_append, ← joinText_renderEach]
  simp only [values_raw, values_append, values_nil, values_join hone, List.append_nil, render,
    List.append_assoc]
  rfl

end Writes

/-- A comparison is written in its pieces. -/
theorem writes_comparison (c : Comparison) : Writes (comparison c) (comparisonPieces c) := by
  obtain ⟨column, op, operand⟩ := c
  -- One value is bound behind any operator, unless it is a word of the language behind `is`.
  have hscalar (v : Value) : Writes
      (do return identifier column ++ ' ' :: (sign op).toList ++ ' ' :: (← bindValue v))
      [.raw (identifier column ++ ' ' :: (sign op).toList ++ [' ']), .bind v] :=
    (Writes.bindValue v).map _ (fun _ _ => by simp [render]) rfl
  cases operand with
  | scalar v =>
    cases op with
    | is =>
      cases v with
      | null => exact .pure _
      | bool b => cases b <;> exact .pure _
      | _ => exact hscalar _
    | _ => exact hscalar v
  | list vs =>
    cases op with
    | like =>
      have hpattern (v : Value) : Writes
          (do return identifier column ++ " LIKE ".toList ++ (← bindValue v))
          [.raw (identifier column ++ " LIKE ".toList), .bind v] :=
        (Writes.bindValue v).map _ (fun _ _ => by simp [render]) rfl
      exact .each hpattern (fun _ => rfl) ['('] [')'] " OR " vs
    | isIn =>
      exact .each Writes.bindValue (fun _ => rfl) (identifier column ++ " IN (".toList) [')'] ", "
        vs
    | _ => exact .pure _
  | range low high =>
    cases op with
    | between =>
      exact (Writes.bindValue low).seq (.bindValue high) _
        (fun _ _ => by simp [comparisonPieces, render]) rfl
    | _ => exact .pure _

/-- A predicate is written in its pieces. -/
theorem writes_predicate (p : Predicate) : Writes (predicate p) (pieces p) := by
  induction p with
  | compare c => exact writes_comparison c
  | and l r ihl ihr =>
    exact ihl.seq ihr _ (fun _ _ => by simp [pieces, render, render_append]) (by simp [pieces])
  | or l r ihl ihr =>
    exact ihl.seq ihr _ (fun _ _ => by simp [pieces, render, render_append]) (by simp [pieces])
  | not p ih =>
    exact ih.map _ (fun _ _ => by simp [pieces, render, render_append]) (by simp [pieces])

end RowQuery.Sql

namespace RowQuery.SqlFragment

open Sql

variable (style : Style) (start : UInt64) (p : Predicate)

/-- The text of a fragment is that of the predicate's pieces. -/
theorem text_ofPredicate : (ofPredicate style start p).text =
    String.ofList (render (wordMark style) start.toNat (Sql.pieces p)) := by
  have hrun := writes_predicate p style start.toNat []
  rw [UInt64.ofNat_toNat] at hrun
  rw [ofPredicate, hrun]

/-- The values of a fragment are those of the predicate's pieces. -/
theorem parameters_ofPredicate :
    (ofPredicate style start p).parameters = values (Sql.pieces p) := by
  have hrun := writes_predicate p style start.toNat []
  rw [UInt64.ofNat_toNat] at hrun
  rw [ofPredicate, hrun]
  rfl

end RowQuery.SqlFragment
