import RowQuery.Proofs.Sql.Grammar
import RowQuery.Proofs.Sql.Values

/-!
# Rendered predicates read back

What is rendered for a compiled predicate is a condition of the query language, in one way only, and
it says of a row what the predicate says, as long as the row has values in the columns in question.
(On an empty cell they part: there a comparison is false, and not unknown.)

A rendering is put together from pieces, and so is the proof. `Renders` says of pieces that they are
read as a condition of some level, whatever number the places start from and whatever text comes
next, and what the truth of that condition is. There is one lemma for each way to put pieces
together and one for each comparison.

* `Renders.group`, `Renders.not`, `Renders.and`, `Renders.or`: conditions from conditions;
* `renders_comparison`: every comparison of a compiled predicate;
* `ofPredicate_reading`: the reading of a rendered predicate and its truth.
-/

namespace RowQuery.Sql

/-! ## Cutting rendered text -/

variable {n : Nat} {rest : List Char} {ls : List Lexeme}

/-- Whether a word or a number may end in front of the text. -/
def Ended (rest : List Char) : Prop :=
  ∀ c ∈ rest.head?, c = ' ' ∨ c = ')' ∨ c = ','

/-- A run of characters of a kind is taken as a whole, if something of another kind follows. -/
theorem take_run {p : Char → Bool} (hp : ∀ c, c = ' ' ∨ c = ')' ∨ c = ',' → p c = false)
    {run : List Char} (hrun : ∀ c ∈ run, p c = true) (h : Ended rest) :
    (run ++ rest).takeWhile p = run ∧ (run ++ rest).dropWhile p = rest := by
  rw [List.takeWhile_append_of_pos hrun, List.dropWhile_append_of_pos hrun]
  cases rest with
  | nil => exact ⟨List.append_nil run, rfl⟩
  | cons c r =>
    have hc : p c = false := hp c (h c rfl)
    simp [hc]

/-- A quoted name ends at its closing quote, since every quote within is doubled. -/
theorem takeName_identifier (s : List Char) (h : rest.head? ≠ some '"') :
    takeName (s.flatMap (fun c => if c = '"' then ['"', '"'] else [c]) ++ '"' :: rest) =
      some (s, rest) := by
  induction s with
  | nil =>
    cases rest with
    | nil => rfl
    | cons c r =>
      have hc : c ≠ '"' := fun hc => h (congrArg some hc)
      simp [takeName, hc]
  | cons c s ih =>
    rw [List.flatMap_cons, List.append_assoc]
    by_cases hc : c = '"'
    · subst hc
      simp [takeName, ih]
    · simp [takeName, hc, ih]

namespace Lexes

theorem blank (h : Lexes n rest ls) : Lexes n (' ' :: rest) ls :=
  .space rfl h

theorem name (s : String) (hr : rest.head? ≠ some '"') (h : Lexes n rest ls) :
    Lexes n (identifier s ++ rest) (.name s :: ls) := by
  refine .lexeme (r := rest) ?_ h
  have : identifier s ++ rest =
      '"' :: (s.toList.flatMap (fun c => if c = '"' then ['"', '"'] else [c]) ++ '"' :: rest) := by
    simp [identifier]
  rw [this, takeLexeme?, takeName_identifier _ hr]
  simp

theorem mark (style : Style) (hr : Ended rest) (h : Lexes (n + 1) rest ls) :
    Lexes n (mark style (n + 1) ++ rest) (.place (n + 1) :: ls) := by
  refine .lexeme (r := rest) ?_ h
  cases style with
  | positional => rfl
  | numbered =>
    obtain ⟨htake, hdrop⟩ := take_run (p := Char.isDigit)
      (by rintro c (rfl | rfl | rfl) <;> rfl)
      (fun _ => Decimal.isDigit_of_mem_natText (n := n + 1)) hr
    show takePlace? (Decimal.natText (n + 1) ++ rest) = _
    rw [takePlace?, htake, hdrop, Decimal.readNat?_natText]
    rfl

theorem word (w : Word) (hr : Ended rest) (h : Lexes n rest ls) :
    Lexes n (w.text.toList ++ rest) (.word w :: ls) := by
  refine .lexeme (r := rest) ?_ h
  have hchars : ∀ c ∈ w.text.toList, isWordChar c = true :=
    List.all_eq_true.1 (by cases w <;> rfl)
  obtain ⟨htake, hdrop⟩ := take_run (by rintro c (rfl | rfl | rfl) <;> rfl) hchars hr
  -- No word begins with the first character of another kind of lexeme.
  have hword : takeLexeme? n (w.text.toList ++ rest) = takeWord? (w.text.toList ++ rest) := by
    cases w <;> rfl
  have hof : Word.ofText? w.text.toList = some w := by
    cases w <;> rfl
  rw [hword, takeWord?, htake, hdrop, hof]
  rfl

/-- A word between blanks. -/
theorem spaced (w : Word) (h : Lexes n rest ls) :
    Lexes n (' ' :: (w.text.toList ++ ' ' :: rest)) (.word w :: ls) :=
  (h.blank.word w (by simp [Ended])).blank

theorem sign (s : Sign) (h : Lexes n rest ls) :
    Lexes n (s.text.toList ++ ' ' :: rest) (.sign s :: ls) := by
  refine .lexeme (r := ' ' :: rest) ?_ h.blank
  cases s <;> rfl

theorem opening (h : Lexes n rest ls) : Lexes n ('(' :: rest) (.opening :: ls) :=
  .lexeme rfl h

theorem closing (h : Lexes n rest ls) : Lexes n (')' :: rest) (.closing :: ls) :=
  .lexeme rfl h

theorem comma (h : Lexes n rest ls) : Lexes n (',' :: rest) (.comma :: ls) :=
  .lexeme rfl h

end Lexes

/-! ## Pieces -/

/-- The places behind the `n`-th hold the given values. -/
def Binds (place : Nat → Value) (n : Nat) (vs : List Value) : Prop :=
  ∀ i v, vs[i]? = some v → place (n + i + 1) = v

theorem Binds.cons {place : Nat → Value} {v : Value} {vs : List Value}
    (h : Binds place n (v :: vs)) : place (n + 1) = v ∧ Binds place (n + 1) vs := by
  refine ⟨h 0 v List.getElem?_cons_zero, fun i w hw => ?_⟩
  have := h (i + 1) w (List.getElem?_cons_succ.trans hw)
  rwa [show n + (i + 1) + 1 = n + 1 + i + 1 by omega] at this

theorem Binds.append {place : Nat → Value} {vs ws : List Value} (h : Binds place n (vs ++ ws)) :
    Binds place n vs ∧ Binds place (n + vs.length) ws := by
  induction vs generalizing n with
  | nil =>
    refine ⟨fun i v hv => ?_, h⟩
    rw [List.getElem?_nil] at hv
    cases hv
  | cons v vs ih =>
    obtain ⟨hv, h⟩ := h.cons
    obtain ⟨hvs, hws⟩ := ih h
    refine ⟨fun i w hw => ?_, ?_⟩
    · cases i with
      | zero =>
        rw [List.getElem?_cons_zero] at hw
        exact hv.trans (Option.some.inj hw)
      | succ i =>
        rw [List.getElem?_cons_succ] at hw
        have := hvs i w hw
        rwa [show n + 1 + i + 1 = n + (i + 1) + 1 by omega] at this
    · rwa [List.length_cons, show n + (vs.length + 1) = n + 1 + vs.length by omega]

/-- Wherever the numbering of places has come to, pieces are read as a condition that has, on the
    rows in question, the truth that `holds` gives. -/
def Renders (style : Style) (level : Level) (known : Row → Prop) (ps : List Piece)
    (holds : (String → List Char → Bool) → Row → Bool) : Prop :=
  ∀ n, ∃ ls e, Reads level ls e ∧
    (∀ rest us, Ended rest → Lexes (n + (values ps).length) rest us →
      Lexes n (render (mark style) n ps ++ rest) (ls ++ us)) ∧
    ∀ like row place, Binds place n (values ps) → known row →
      e.eval like row place = some (holds like row)

namespace Renders

variable {style : Style} {level : Level} {known : Row → Prop} {ps qs : List Piece}
  {holds holds' : (String → List Char → Bool) → Row → Bool}

theorem congr (h : Renders style level known ps holds)
    (heq : ∀ like row, holds like row = holds' like row) :
    Renders style level known ps holds' := by
  obtain rfl : holds = holds' := by
    funext like row
    exact heq like row
  exact h

theorem term (h : Renders style .factor known ps holds) : Renders style .term known ps holds := by
  intro n
  obtain ⟨ls, e, hread, h⟩ := h n
  exact ⟨ls, e, .factor hread, h⟩

theorem condition (h : Renders style .term known ps holds) :
    Renders style .condition known ps holds := by
  intro n
  obtain ⟨ls, e, hread, h⟩ := h n
  exact ⟨ls, e, .term hread, h⟩

/-- Brackets add no place and change no truth. -/
theorem group (h : Renders style .condition known ps holds) :
    Renders style .factor known (.raw ['('] :: ps ++ [.raw [')']]) holds := by
  intro n
  obtain ⟨ls, e, hread, hlex, heval⟩ := h n
  have hvalues : values (.raw ['('] :: ps ++ [.raw [')']]) = values ps := by simp
  rw [hvalues]
  refine ⟨_, e, .group hread, fun rest us _ hus => ?_, heval⟩
  have := (hlex (')' :: rest) (.closing :: us) (by simp [Ended]) hus.closing).opening
  simpa [render, render_append] using this

theorem not (h : Renders style .condition known ps holds) :
    Renders style .factor known (.raw "NOT (".toList :: ps ++ [.raw [')']])
      (fun like row => !holds like row) := by
  intro n
  obtain ⟨ls, e, hread, hlex, heval⟩ := h n
  have hvalues : values (.raw "NOT (".toList :: ps ++ [.raw [')']]) = values ps := by simp
  rw [hvalues]
  refine ⟨_, .not e, .not (.group hread), fun rest us _ hus => ?_, fun like row place hb hk => ?_⟩
  · have hinner := (hlex (')' :: rest) (.closing :: us) (by simp [Ended]) hus.closing).opening
    have := hinner.blank.word .not (by simp [Ended])
    have htext : "NOT (".toList = Word.not.text.toList ++ [' ', '('] := by decide
    simpa [render, render_append, htext] using this
  · rw [Expr.eval, heval like row place hb hk]
    rfl

theorem and (h : Renders style .factor known ps holds) (h' : Renders style .term known qs holds') :
    Renders style .term known (ps ++ .raw " AND ".toList :: qs)
      (fun like row => holds like row && holds' like row) := by
  intro n
  -- The places on the right are numbered after those on the left.
  obtain ⟨ls, e, hread, hlex, heval⟩ := h n
  obtain ⟨ls', e', hread', hlex', heval'⟩ := h' (n + (values ps).length)
  have hvalues : values (ps ++ .raw " AND ".toList :: qs) = values ps ++ values qs := by simp
  rw [hvalues]
  refine ⟨_, .and e e', .and hread hread', fun rest us hr hus => ?_, fun like row place hb hk => ?_⟩
  · rw [List.length_append, ← Nat.add_assoc] at hus
    have := hlex _ _ (by simp [Ended]) ((hlex' rest us hr hus).spaced .and)
    have htext : " AND ".toList = ' ' :: Word.and.text.toList ++ [' '] := by decide
    simpa [render, render_append, htext] using this
  · obtain ⟨hl, hr⟩ := hb.append
    rw [Expr.eval, heval like row place hl hk, heval' like row place hr hk, both_some]

theorem or (h : Renders style .term known ps holds)
    (h' : Renders style .condition known qs holds') :
    Renders style .condition known (ps ++ .raw " OR ".toList :: qs)
      (fun like row => holds like row || holds' like row) := by
  intro n
  obtain ⟨ls, e, hread, hlex, heval⟩ := h n
  obtain ⟨ls', e', hread', hlex', heval'⟩ := h' (n + (values ps).length)
  have hvalues : values (ps ++ .raw " OR ".toList :: qs) = values ps ++ values qs := by simp
  rw [hvalues]
  refine ⟨_, .or e e', .or hread hread', fun rest us hr hus => ?_, fun like row place hb hk => ?_⟩
  · rw [List.length_append, ← Nat.add_assoc] at hus
    have := hlex _ _ (by simp [Ended]) ((hlex' rest us hr hus).spaced .or)
    have htext : " OR ".toList = ' ' :: Word.or.text.toList ++ [' '] := by decide
    simpa [render, render_append, htext] using this
  · obtain ⟨hl, hr⟩ := hb.append
    rw [Expr.eval, heval like row place hl hk, heval' like row place hr hk, either_some]

/-- Alternatives hold if one of them does. -/
theorem alternatives {v : Value} {vs : List Value} {pieces : Value → List Piece}
    {holds : Value → (String → List Char → Bool) → Row → Bool}
    (h : ∀ w ∈ v :: vs, Renders style .factor known (pieces w) (holds w)) :
    Renders style .condition known (joinPieces " OR " ((v :: vs).map pieces))
      (fun like row => (v :: vs).any fun w => holds w like row) := by
  induction vs generalizing v with
  | nil =>
    simp only [List.any_cons, List.any_nil, Bool.or_false]
    exact (h v List.mem_cons_self).term.condition
  | cons w ws ih =>
    obtain ⟨hv, hws⟩ := List.forall_mem_cons.1 h
    exact (hv.term).or (ih hws)

end Renders

/-! ## Comparisons -/

section Comparison

variable {style : Style} {known : Row → Prop} {column : String}

/-- A comparison of a column with one value by a sign. -/
theorem renders_sign (s : Sign) {v : Value} (hv : v ≠ .null)
    (hknown : ∀ row, known row → row.value column ≠ .null) :
    Renders style .factor known
      [.raw (identifier column ++ ' ' :: s.text.toList ++ [' ']), .bind v]
      (fun _ row => ((row.value column).compare? v).any s.admits) := by
  intro n
  refine ⟨_, _, .test (.compare s (.column column) (.place (n + 1))), fun rest us hr hus => ?_,
    fun like row place hb hk => ?_⟩
  · have := ((hus.mark style hr).sign s).blank.name column (by simp)
    simpa [render, Test.lexemes, Term.lexeme] using this
  · obtain ⟨rfl, -⟩ := hb.cons
    exact s.eval_eq_some (hknown row hk) hv

/-- A comparison of a column with one pattern. -/
theorem renders_like {v : Value} (hv : v ≠ .null)
    (hknown : ∀ row, known row → row.value column ≠ .null) :
    Renders style .factor known [.raw (identifier column ++ " LIKE ".toList), .bind v]
      (fun like row => matchValue like (row.value column) v) := by
  intro n
  refine ⟨_, _, .test (.like (.column column) (.place (n + 1))), fun rest us hr hus => ?_,
    fun like row place hb hk => ?_⟩
  · have := ((hus.mark style hr).spaced .like).name column (by simp)
    have htext : " LIKE ".toList = ' ' :: Word.like.text.toList ++ [' '] := by decide
    simpa [render, htext, Test.lexemes, Term.lexeme] using this
  · obtain ⟨rfl, -⟩ := hb.cons
    exact unlessNull_eq_some (hknown row hk) hv _

/-- The question whether a column is empty. -/
theorem renders_isNull :
    Renders style .factor known [.raw (identifier column ++ " IS NULL".toList)]
      (fun _ row => (row.value column).isNull) := by
  intro n
  refine ⟨_, _, .test (.isNull (.column column)), fun rest us hr hus => ?_,
    fun like row place hb hk => rfl⟩
  have := ((hus.word .null hr).spaced .is).name column (by simp)
  have htext : " IS NULL".toList = ' ' :: Word.is.text.toList ++ ' ' :: Word.null.text.toList := by
    decide
  simpa [render, htext, Test.lexemes, Term.lexeme] using this

/-- The question whether a column holds a truth value. -/
theorem renders_isTruth (b : Bool) :
    Renders style .factor known
      [.raw (identifier column ++ (if b then " IS TRUE" else " IS FALSE").toList)]
      (fun _ row => ((row.value column).compare? (.bool b)).any Ordering.isEq) := by
  intro n
  refine ⟨_, _, .test (.isTruth (.column column) b), fun rest us hr hus => ?_,
    fun like row place hb hk => rfl⟩
  have := ((hus.word (if b then .true else .false) hr).spaced .is).name column (by simp)
  have htext : (if b then " IS TRUE" else " IS FALSE").toList =
      ' ' :: Word.is.text.toList ++ ' ' :: (if b then Word.true else Word.false).text.toList := by
    cases b <;> decide
  simpa [render, htext, Test.lexemes, Term.lexeme] using this

/-- A comparison of a column with two bounds. -/
theorem renders_between {low high : Value} (hlow : low ≠ .null) (hhigh : high ≠ .null)
    (hknown : ∀ row, known row → row.value column ≠ .null) :
    Renders style .factor known
      [.raw (identifier column ++ " BETWEEN ".toList), .bind low, .raw " AND ".toList, .bind high]
      (fun _ row => ((row.value column).compare? low).any Ordering.isGE &&
        ((row.value column).compare? high).any Ordering.isLE) := by
  intro n
  refine ⟨_, _, .test (.between (.column column) (.place (n + 1)) (.place (n + 2))),
    fun rest us hr hus => ?_, fun like row place hb hk => ?_⟩
  · have hhigh := Lexes.mark (n := n + 1) style hr hus
    have hlow := (hhigh.spaced .and).mark (n := n) style (by simp [Ended])
    have := (hlow.spaced .between).name column (by simp)
    have htext : " BETWEEN ".toList = ' ' :: Word.between.text.toList ++ [' '] := by decide
    have htext' : " AND ".toList = ' ' :: Word.and.text.toList ++ [' '] := by decide
    simpa [render, htext, htext', Test.lexemes, Term.lexeme] using this
  · have hbounds : Binds place n [low, high] := hb
    obtain ⟨rfl, hb'⟩ := hbounds.cons
    obtain ⟨rfl, -⟩ := hb'.cons
    have hv := hknown row hk
    simp only [Expr.eval, Test.eval, Term.value]
    rw [Sign.gte.eval_eq_some hv hlow, Sign.lte.eval_eq_some hv hhigh, both_some]
    rfl

/-- As many places as are asked for, behind the `n`-th. -/
def placesFrom (n : Nat) : Nat → List Term
  | 0 => []
  | k + 1 => .place (n + 1) :: placesFrom (n + 1) k

theorem Lexes.places (style : Style) {v : Value} {vs : List Value} (hr : Ended rest)
    (h : Lexes (n + (v :: vs).length) rest ls) :
    Lexes n (render (Sql.mark style) n (joinPieces ", " ((v :: vs).map fun v => [.bind v])) ++ rest)
      (.place (n + 1) ::
        (placesFrom (n + 1) vs.length).flatMap (fun t => [.comma, t.lexeme]) ++ ls) := by
  induction vs generalizing n v with
  | nil => simpa [joinPieces, render, placesFrom] using h.mark style hr
  | cons w ws ih =>
    have hlength : n + (v :: w :: ws).length = n + 1 + (w :: ws).length := by
      simp only [List.length_cons]
      omega
    have hws := ih (n := n + 1) (v := w) (hlength ▸ h)
    have := hws.blank.comma.mark style (by simp [Ended])
    simpa [joinPieces, render, placesFrom, Term.lexeme] using this

/-- The truth of a comparison with one of several places. -/
theorem eval_places {row : Row} {place : Nat → Value} {v : Value} {vs : List Value}
    (hv : v ≠ .null) (hvs : ∀ w ∈ vs, w ≠ .null) (hb : Binds place n vs) (b : Bool) :
    (placesFrom n vs.length).foldl
      (fun b t => either b (Sign.eq.eval v (t.value row place))) (some b) =
        some (b || vs.any fun w => (v.compare? w).any Ordering.isEq) := by
  induction vs generalizing n b with
  | nil => simp [placesFrom]
  | cons w ws ih =>
    -- The first alternative has been taken into account in `b`.
    obtain ⟨rfl, hb'⟩ := hb.cons
    obtain ⟨hw, hws⟩ := List.forall_mem_cons.1 hvs
    rw [List.length_cons, placesFrom, List.foldl_cons, Term.value, Sign.eq.eval_eq_some hv hw,
      either_some, ih hws hb', List.any_cons, Bool.or_assoc]
    rfl

/-- A comparison of a column with one of several values. -/
theorem renders_isIn {v : Value} {vs : List Value} (hvs : ∀ w ∈ v :: vs, w ≠ .null)
    (hknown : ∀ row, known row → row.value column ≠ .null) :
    Renders style .factor known
      (.raw (identifier column ++ " IN (".toList) ::
        joinPieces ", " ((v :: vs).map fun v => [.bind v]) ++ [.raw [')']])
      (fun _ row => (v :: vs).any fun w => ((row.value column).compare? w).any Ordering.isEq) := by
  intro n
  have hvalues : values (.raw (identifier column ++ " IN (".toList) ::
      joinPieces ", " ((v :: vs).map fun v => [.bind v]) ++ [.raw [')']]) = v :: vs := by
    simp only [List.cons_append, values_raw, values_append, values_nil, List.append_nil]
    exact values_join (fun _ => rfl) (v :: vs)
  rw [hvalues]
  refine ⟨_, _, .test (.isIn (.column column) (.place (n + 1)) (placesFrom (n + 1) vs.length)),
    fun rest us hr hus => ?_, fun like row place hb hk => ?_⟩
  · have hplaces := (hus.closing.places style (by simp [Ended])).opening
    have := (hplaces.spaced .isIn).name column (by simp)
    have htext : " IN (".toList = ' ' :: Word.isIn.text.toList ++ [' ', '('] := by decide
    simpa [render, render_append, htext, Test.lexemes, Term.lexeme] using this
  · obtain ⟨hv, hws⟩ := List.forall_mem_cons.1 hvs
    obtain ⟨rfl, hb'⟩ := hb.cons
    have hx := hknown row hk
    simp only [Expr.eval, Test.eval, Term.value]
    rw [Sign.eq.eval_eq_some hx hv]
    exact eval_places hx hws hb' _

/-- What the evaluator asks of an order is what a sign admits. -/
theorem any_admits (o : Option Ordering) :
    o.any Ordering.isEq = (o == some .eq) ∧ o.any Ordering.isGT = (o == some .gt) ∧
      o.any Ordering.isLT = (o == some .lt) ∧ o.any Ordering.isGE = atLeast o ∧
      o.any Ordering.isLE = atMost o := by
  rcases o with _ | _ | _ | _ <;> decide

/-- A comparison of a compiled predicate is read back as what it says. -/
theorem renders_comparison {t : ColumnType} {op : Operator} {operand : Operand}
    (ho : operand.Suits t op) (hknown : ∀ row, known row → row.value column ≠ .null) :
    Renders style .factor known (comparisonPieces ⟨column, op, operand⟩)
      (fun like row => (Comparison.mk column op operand).eval like row) := by
  have hne : ∀ {v : Value}, v.type? = some t → v ≠ .null := by
    rintro _ hv rfl
    cases hv
  -- One case for each shape of operand, and within the orders one for each sign.
  cases ho with
  | isNull => exact renders_isNull
  | @is v hv =>
    cases v with
    | null => cases hv
    | bool b =>
      cases b with
      | true => exact (renders_isTruth true).congr fun _ _ => (any_admits _).1
      | false => exact (renders_isTruth false).congr fun _ _ => (any_admits _).1
    | _ => exact (renders_sign .eq (hne hv) hknown).congr fun _ _ => (any_admits _).1
  | @order op v hop hv =>
    have hsign (s : Sign) : Renders style .factor known _ _ := renders_sign s (hne hv) hknown
    cases op with
    | eq => exact (hsign .eq).congr fun _ _ => (any_admits _).1
    | gt => exact (hsign .gt).congr fun _ _ => (any_admits _).2.1
    | lt => exact (hsign .lt).congr fun _ _ => (any_admits _).2.2.1
    | gte => exact (hsign .gte).congr fun _ _ => (any_admits _).2.2.2.1
    | lte => exact (hsign .lte).congr fun _ _ => (any_admits _).2.2.2.2
    | _ => simp at hop
  | like s =>
    have hlike : Renders style .factor known _ _ := renders_like (v := .text s) nofun hknown
    have htext : identifier column ++ " LIKE ".toList =
        identifier column ++ ' ' :: (sign .like).toList ++ [' '] := by
      rw [List.append_assoc]
      rfl
    rw [htext] at hlike
    exact hlike
  | @likeAny ss hss =>
    cases ss with
    | nil => cases hss
    | cons s ss =>
      refine (Renders.alternatives fun w hw => renders_like ?_ hknown).group
      rcases List.mem_cons.1 hw with rfl | hw
      · nofun
      · obtain ⟨s, _, rfl⟩ := List.mem_map.1 hw
        nofun
  | @isIn vs hvs htypes =>
    cases vs with
    | nil => exact absurd rfl hvs
    | cons v vs =>
      refine (renders_isIn (fun w hw => hne (htypes w hw)) hknown).congr fun _ row => ?_
      simp only [any_admits]
      rfl
  | between hlow hhigh =>
    refine (renders_between (hne hlow) (hne hhigh) hknown).congr fun _ row => ?_
    simp only [any_admits]
    rfl

end Comparison

/-! ## Predicates -/

/-- A compiled predicate is read back as what it says. -/
theorem renders_pieces {style : Style} {resolve : Resolver} {known : Row → Prop} {p : Predicate}
    (hp : p.WellTyped resolve)
    (hknown : ∀ row, known row → ∀ c ∈ p.columns, row.value c ≠ .null) :
    Renders style .factor known (pieces p) (fun like row => p.eval like row) := by
  induction hp with
  | compare _ ho =>
    exact renders_comparison ho fun row hk => hknown row hk _ (List.mem_singleton_self _)
  | not _ _ ih => exact ((ih hknown).term.condition).not
  | and _ _ ihl ihr =>
    have hl := ihl fun row hk c hc => hknown row hk c (Predicate.mem_columns_and.2 (.inl hc))
    have hr := ihr fun row hk c hc => hknown row hk c (Predicate.mem_columns_and.2 (.inr hc))
    exact (hl.and hr.term).condition.group
  | or _ _ ihl ihr =>
    have hl := ihl fun row hk c hc => hknown row hk c (Predicate.mem_columns_or.2 (.inl hc))
    have hr := ihr fun row hk c hc => hknown row hk c (Predicate.mem_columns_or.2 (.inr hc))
    exact (hl.term.or hr.term.condition).group

/-- The values of places, when the given ones are bound behind `bound` others. -/
def placeValue (bound : Nat) (vs : List Value) (n : Nat) : Value :=
  if bound < n then vs[n - bound - 1]?.getD .null else .null

theorem binds_placeValue (bound : Nat) (vs : List Value) :
    Binds (placeValue bound vs) bound vs := by
  intro i v hv
  have hi : bound + i + 1 - bound - 1 = i := by omega
  rw [placeValue, if_pos (by omega), hi, hv]
  rfl

/-- Whether a text matches a pattern, which is read on the spot. -/
def matchText (pattern : String) (s : List Char) : Bool :=
  ((Like.Pattern.read? pattern.toList).map (·.accepts s)).getD false

/-- The condition that is rendered for a compiled predicate has one reading, and that is true on a
    row, of which no column in question is empty, if the row satisfies the predicate, and false if
    it does not. Numbered places need room in the count. There are no more of them than the filter
    has characters, so from zero on there is room for every text that a machine can hold. -/
theorem ofPredicate_reading {mode : Mode} {resolve : Resolver} {filter : String} {p : Predicate}
    (h : Predicate.compile mode resolve filter = .ok (some p)) (style : Style) (start : UInt64)
    (hroom : style = .numbered → start.toNat + filter.length < UInt64.size) :
    let fragment := SqlFragment.ofPredicate style start p
    ∃ e, (∀ e', IsReading start.toNat fragment.text e' ↔ e' = e) ∧
      ∀ row : Row, (∀ c ∈ p.columns, row.value c ≠ .null) →
        e.eval matchText row (placeValue start.toNat fragment.parameters) =
          some ((Matcher.ofPredicate p).accepts row) := by
  intro fragment
  have hmarks : render (wordMark style) start.toNat (pieces p) =
      render (mark style) start.toNat (pieces p) := by
    cases style with
    | numbered =>
      have hlength := length_values_le h
      have hbound := hroom rfl
      exact render_wordMark (by omega)
    | positional => rfl
  have htext : fragment.text.toList = render (mark style) start.toNat (pieces p) := by
    rw [SqlFragment.text_ofPredicate, String.toList_ofList, hmarks]
  have hrenders : Renders style .factor _ (pieces p) _ :=
    renders_pieces (Predicate.wellTyped_of_compile h) fun _ hrow => hrow
  obtain ⟨ls, e, hread, hlex, heval⟩ := hrenders start.toNat
  -- The whole text is the case in which nothing follows.
  have hreading : IsReading start.toNat fragment.text e := by
    refine ⟨ls, ?_, .term (.factor hread)⟩
    have := hlex [] [] nofun .done
    rw [List.append_nil, List.append_nil] at this
    rwa [htext]
  refine ⟨e, fun e' => ⟨fun h' => h'.unique hreading, ?_⟩, fun row hrow => ?_⟩
  · rintro rfl
    exact hreading
  · rw [Matcher.accepts_eq_holds, SqlFragment.parameters_ofPredicate]
    exact heval matchText row _ (binds_placeValue _ _) hrow

/-- A column with a quote in its name, a negated list of patterns, and places from the second on:
    `s:~like:a%,_b:n:in:2,3|is:null` on a row that satisfies it. -/
theorem ofPredicate_reading_quoted_column :
    let resolve : Resolver := fun field =>
      some (if field = "n" then ⟨"n", .integer⟩ else ⟨"s\"", .text⟩)
    let p : Predicate :=
      .and (.not (.compare ⟨"s\"", .like, .list [.text "a%", .text "_b"]⟩))
        (.or (.compare ⟨"n", .isIn, .list [.int 2, .int 3]⟩)
          (.compare ⟨"n", .is, .scalar .null⟩))
    let row : Row := ((∅ : Row).insert "s\"" (.text "xy")).insert "n" (.int 3)
    let fragment := SqlFragment.ofPredicate .numbered 1 p
    Predicate.compile .lenient resolve "s:~like:a%,_b:n:in:2,3|is:null" = .ok (some p) ∧
      fragment.text = "(NOT ((\"s\"\"\" LIKE $2 OR \"s\"\"\" LIKE $3)) AND " ++
        "(\"n\" IN ($4, $5) OR \"n\" IS NULL))" ∧
      ∃ e, (∀ e', IsReading 1 fragment.text e' ↔ e' = e) ∧
        e.eval matchText row (placeValue 1 fragment.parameters) = some true := by
  intro resolve p row fragment
  have hcompile : Predicate.compile .lenient resolve "s:~like:a%,_b:n:in:2,3|is:null" =
      .ok (some p) := rfl
  refine ⟨hcompile, rfl, ?_⟩
  obtain ⟨e, he, heval⟩ := ofPredicate_reading hcompile .numbered 1 fun _ => by decide
  refine ⟨e, he, (heval row fun c hc => ?_).trans rfl⟩
  have hcolumn : c ∈ ["s\"", "n"] := hc
  simp only [List.mem_cons, List.not_mem_nil, or_false] at hcolumn
  rcases hcolumn with rfl | rfl <;> nofun

end RowQuery.Sql
