import RowQuery.Decimal.Digits
import RowQuery.Filter.Evaluation

/-!
# Conditions of a query language

The language of the conditions that are rendered. A text is cut into *lexemes*: names in double
quotes, a doubled quote in them standing for one; places of values, marked by a dollar sign and a
number, or by a question mark for the place after the last one; words, in any case; signs and
brackets. Lexemes are then read as a condition: "not" binds closer than "and", which binds closer
than "or", and brackets go around any condition.

Truth has three values here, for a comparison with an empty cell is unknown. Which way two values
compare, and which texts a pattern matches, is settled outside of the language.

* `Lexes.unique`: a text is cut into lexemes in one way at most;
* `Reads.unique`: lexemes are read as a condition in one way at most;
* `IsReading`: the readings of a text, of which there is one at most (`IsReading.unique`).
-/

namespace RowQuery.Sql

/-! ## Lexemes -/

/-- The words of conditions. -/
inductive Word
  | and
  | or
  | not
  | is
  | null
  | true
  | false
  | isIn
  | between
  | like
deriving DecidableEq

namespace Word

/-- All words. -/
def all : List Word :=
  [and, or, not, is, null, true, false, isIn, between, like]

/-- The text of a word, in capitals. -/
def text : Word → String
  | and => "AND"
  | or => "OR"
  | not => "NOT"
  | is => "IS"
  | null => "NULL"
  | true => "TRUE"
  | false => "FALSE"
  | isIn => "IN"
  | between => "BETWEEN"
  | like => "LIKE"

/-- The word that a text is, in any case. -/
def ofText? (s : List Char) : Option Word :=
  all.find? fun w => w.text.toList == s.map Char.toUpper

end Word

/-- The signs of comparisons. -/
inductive Sign
  | eq
  | lt
  | lte
  | gt
  | gte
deriving DecidableEq

/-- The text of a sign. -/
def Sign.text : Sign → String
  | eq => "="
  | lt => "<"
  | lte => "<="
  | gt => ">"
  | gte => ">="

/-- The units of a condition. -/
inductive Lexeme
  /-- A name, without its quotes. -/
  | name (s : String)
  /-- The place of the `n`-th value. -/
  | place (n : Nat)
  | word (w : Word)
  | sign (s : Sign)
  | opening
  | closing
  | comma
deriving DecidableEq

/-- Takes a name up to its closing quote, the opening one being gone. -/
def takeName : List Char → Option (List Char × List Char)
  | [] => none
  | '"' :: '"' :: s => (takeName s).map fun r => ('"' :: r.1, r.2)
  | '"' :: s => some ([], s)
  | c :: s => (takeName s).map fun r => (c :: r.1, r.2)

/-- The characters of words. -/
def isWordChar (c : Char) : Bool :=
  c.isAlphanum || c = '_'

/-- Takes as long a run of word characters as there is, which has to be a word. -/
def takeWord? (s : List Char) : Option (Lexeme × List Char) :=
  (Word.ofText? (s.takeWhile isWordChar)).map fun w => (.word w, s.dropWhile isWordChar)

/-- Takes the number of a place: as long a run of digits as there is. -/
def takePlace? (s : List Char) : Option (Lexeme × List Char) :=
  (Decimal.readNat? (s.takeWhile Char.isDigit)).map fun n => (.place n, s.dropWhile Char.isDigit)

/-- Takes a lexeme, when `n` is the number of the place met last. -/
def takeLexeme? (n : Nat) : List Char → Option (Lexeme × List Char)
  | '"' :: s => (takeName s).map fun r => (.name (String.ofList r.1), r.2)
  | '$' :: s => takePlace? s
  | '?' :: s => some (.place (n + 1), s)
  | '(' :: s => some (.opening, s)
  | ')' :: s => some (.closing, s)
  | ',' :: s => some (.comma, s)
  | '=' :: s => some (.sign .eq, s)
  | '<' :: '=' :: s => some (.sign .lte, s)
  | '<' :: s => some (.sign .lt, s)
  | '>' :: '=' :: s => some (.sign .gte, s)
  | '>' :: s => some (.sign .gt, s)
  | s => takeWord? s

/-- The number of the place met last, after a lexeme. -/
def Lexeme.lastPlace (n : Nat) : Lexeme → Nat
  | place k => k
  | _ => n

/-- A text is cut into lexemes, with white space around them, when `n` is the number of the place
    met last. -/
inductive Lexes : Nat → List Char → List Lexeme → Prop
  | done {n : Nat} : Lexes n [] []
  | space {n : Nat} {c : Char} {s : List Char} {ls : List Lexeme} (hc : c.isWhitespace = true)
      (h : Lexes n s ls) : Lexes n (c :: s) ls
  | lexeme {n : Nat} {s r : List Char} {l : Lexeme} {ls : List Lexeme}
      (hl : takeLexeme? n s = some (l, r)) (h : Lexes (l.lastPlace n) r ls) : Lexes n s (l :: ls)

theorem takeLexeme?_nil (n : Nat) : takeLexeme? n [] = none := by
  rfl

/-- No lexeme begins with white space. -/
theorem takeLexeme?_space {c : Char} (hc : c.isWhitespace = true) (n : Nat) (s : List Char) :
    takeLexeme? n (c :: s) = none := by
  rw [Char.isWhitespace] at hc
  simp only [Bool.or_eq_true, decide_eq_true_eq] at hc
  rcases hc with ((rfl | rfl) | rfl) | rfl <;> rfl

theorem Lexes.unique {n : Nat} {s : List Char} {ls ls' : List Lexeme} (h : Lexes n s ls)
    (h' : Lexes n s ls') : ls = ls' := by
  induction h generalizing ls' with
  | done =>
    cases h' with
    | done => rfl
    | lexeme hl _ =>
      rw [takeLexeme?_nil] at hl
      cases hl
  | space hc _ ih =>
    cases h' with
    | space _ h' => exact ih h'
    | lexeme hl _ =>
      rw [takeLexeme?_space hc] at hl
      cases hl
  | lexeme hl _ ih =>
    cases h' with
    | done =>
      rw [takeLexeme?_nil] at hl
      cases hl
    | space hc _ =>
      rw [takeLexeme?_space hc] at hl
      cases hl
    | lexeme hl' h' =>
      rw [hl] at hl'
      cases hl'
      rw [ih h']

/-! ## Conditions -/

/-- What stands for a value. -/
inductive Term
  | column (name : String)
  | place (n : Nat)
deriving DecidableEq

/-- The lexeme that a term is. -/
def Term.lexeme : Term → Lexeme
  | column s => .name s
  | place n => .place n

/-- A condition without parts that are conditions. -/
inductive Test
  | compare (sign : Sign) (t u : Term)
  | like (t pattern : Term)
  | isIn (t first : Term) (rest : List Term)
  | between (t low high : Term)
  | isNull (t : Term)
  | isTruth (t : Term) (b : Bool)

/-- How a test is written. -/
def Test.lexemes : Test → List Lexeme
  | compare s t u => [t.lexeme, .sign s, u.lexeme]
  | like t u => [t.lexeme, .word .like, u.lexeme]
  | isIn t u us =>
    t.lexeme :: .word .isIn :: .opening :: u.lexeme ::
      (us.flatMap (fun v => [.comma, v.lexeme]) ++ [.closing])
  | between t u v => [t.lexeme, .word .between, u.lexeme, .word .and, v.lexeme]
  | isNull t => [t.lexeme, .word .is, .word .null]
  | isTruth t b => [t.lexeme, .word .is, .word (if b then .true else .false)]

/-- A condition. -/
inductive Expr
  | test (t : Test)
  | not (e : Expr)
  | and (e f : Expr)
  | or (e f : Expr)

/-- How closely the parts of a condition are bound. -/
inductive Level
  /-- A test, a negation, or a condition in brackets. -/
  | factor
  /-- Factors joined by "and". -/
  | term
  /-- Terms joined by "or". -/
  | condition

/-- Lexemes are read as a condition at a level. Runs of "and", and of "or", are grouped from the
    right, which makes no difference to their truth. -/
inductive Reads : Level → List Lexeme → Expr → Prop
  | test (t : Test) : Reads .factor t.lexemes (.test t)
  | group {ls : List Lexeme} {e : Expr} (h : Reads .condition ls e) :
      Reads .factor (.opening :: (ls ++ [.closing])) e
  | not {ls : List Lexeme} {e : Expr} (h : Reads .factor ls e) :
      Reads .factor (.word .not :: ls) (.not e)
  | factor {ls : List Lexeme} {e : Expr} (h : Reads .factor ls e) : Reads .term ls e
  | and {ls us : List Lexeme} {e f : Expr} (h : Reads .factor ls e) (hr : Reads .term us f) :
      Reads .term (ls ++ .word .and :: us) (.and e f)
  | term {ls : List Lexeme} {e : Expr} (h : Reads .term ls e) : Reads .condition ls e
  | or {ls us : List Lexeme} {e f : Expr} (h : Reads .term ls e) (hr : Reads .condition us f) :
      Reads .condition (ls ++ .word .or :: us) (.or e f)

/-! ## Unambiguity -/

/-- Whether a condition at a level may end in front of the lexemes. -/
def Ends : Level → List Lexeme → Prop
  | .factor, _ => True
  | .term, ls => ls.head? ≠ some (.word .and)
  | .condition, ls => ls.head? ≠ some (.word .and) ∧ ls.head? ≠ some (.word .or)

theorem Term.lexeme_inj {t u : Term} (h : t.lexeme = u.lexeme) : t = u := by
  cases t <;> cases u <;> cases h <;> rfl

/-- Terms behind commas end where the bracket is closed. -/
theorem commas_inj {us vs : List Term} {r r' : List Lexeme}
    (h : us.flatMap (fun t => [.comma, t.lexeme]) ++ .closing :: r =
      vs.flatMap (fun t => [.comma, t.lexeme]) ++ .closing :: r') : us = vs ∧ r = r' := by
  induction us generalizing vs with
  | nil =>
    cases vs with
    | nil => exact ⟨rfl, (List.cons.inj h).2⟩
    | cons v vs => cases (List.cons.inj h).1
  | cons u us ih =>
    cases vs with
    | nil => cases (List.cons.inj h).1
    | cons v vs =>
      obtain ⟨hu, h⟩ := List.cons.inj (List.cons.inj h).2
      obtain ⟨rfl, hr⟩ := ih h
      exact ⟨by rw [Term.lexeme_inj hu], hr⟩

/-- A test ends where it ends, whatever follows it. -/
theorem Test.lexemes_inj {t t' : Test} {r r' : List Lexeme}
    (h : t.lexemes ++ r = t'.lexemes ++ r') : t = t' ∧ r = r' := by
  -- Tests of two kinds differ in the second lexeme, or in the third behind "is".
  cases t with
  | isIn t u us =>
    cases t' with
    | isIn t' u' us' =>
      simp only [lexemes, List.cons_append, List.append_assoc, List.nil_append, List.cons.injEq,
        true_and] at h
      obtain ⟨ht, hu, h⟩ := h
      obtain ⟨rfl, hr⟩ := commas_inj h
      exact ⟨by rw [Term.lexeme_inj ht, Term.lexeme_inj hu], hr⟩
    | _ => simp [lexemes] at h
  | isTruth t b =>
    cases t' with
    | isTruth t' b' =>
      simp only [lexemes, List.cons_append, List.nil_append, List.cons.injEq, true_and] at h
      obtain ⟨ht, hb, hr⟩ := h
      refine ⟨?_, hr⟩
      cases b <;> cases b' <;> cases hb <;> rw [Term.lexeme_inj ht]
    | isNull t' => cases b <;> simp [lexemes] at h
    | _ => simp [lexemes] at h
  | isNull t =>
    cases t' with
    | isNull t' =>
      simp only [lexemes, List.cons_append, List.nil_append, List.cons.injEq, true_and] at h
      exact ⟨by rw [Term.lexeme_inj h.1], h.2⟩
    | isTruth t' b => cases b <;> simp [lexemes] at h
    | _ => simp [lexemes] at h
  | compare s t u =>
    cases t' with
    | compare s' t' u' =>
      simp only [lexemes, List.cons_append, List.nil_append, List.cons.injEq,
        Lexeme.sign.injEq] at h
      obtain ⟨ht, rfl, hu, hr⟩ := h
      exact ⟨by rw [Term.lexeme_inj ht, Term.lexeme_inj hu], hr⟩
    | _ => simp [lexemes] at h
  | like t u =>
    cases t' with
    | like t' u' =>
      simp only [lexemes, List.cons_append, List.nil_append, List.cons.injEq, true_and] at h
      exact ⟨by rw [Term.lexeme_inj h.1, Term.lexeme_inj h.2.1], h.2.2⟩
    | _ => simp [lexemes] at h
  | between t u v =>
    cases t' with
    | between t' u' v' =>
      simp only [lexemes, List.cons_append, List.nil_append, List.cons.injEq, true_and] at h
      exact ⟨by rw [Term.lexeme_inj h.1, Term.lexeme_inj h.2.1, Term.lexeme_inj h.2.2.1],
        h.2.2.2⟩
    | _ => simp [lexemes] at h

/-- A test begins with a term, so with no bracket and no "not". -/
theorem Test.ne_of_lexemes {t : Test} {l : Lexeme} {r ls : List Lexeme}
    (h : t.lexemes ++ r = l :: ls) : l ≠ .opening ∧ l ≠ .word .not := by
  obtain ⟨u, us, hu⟩ : ∃ (u : Term) (us : List Lexeme), t.lexemes = u.lexeme :: us := by
    cases t <;> exact ⟨_, _, rfl⟩
  rw [hu] at h
  obtain ⟨rfl, -⟩ := List.cons.inj h
  cases u <;> exact ⟨nofun, nofun⟩

/-- Of two lists of lexemes that begin alike, the same condition is read at the same level, if it
    may end where it ends. -/
theorem Reads.unique_append {level : Level} {ls ls' r r' : List Lexeme} {e e' : Expr}
    (h : Reads level ls e) (h' : Reads level ls' e') (happ : ls ++ r = ls' ++ r')
    (hr : Ends level r) (hr' : Ends level r') : e = e' ∧ ls = ls' ∧ r = r' := by
  -- Where the second reading goes on with "and" or "or" and the first one ends, or the other way
  -- round, the part that both begin with is the same, so the first may not have ended.
  induction h generalizing ls' e' r r' with
  | test t =>
    cases h' with
    | test t' =>
      obtain ⟨rfl, rfl⟩ := Test.lexemes_inj happ
      exact ⟨rfl, rfl, rfl⟩
    | group h' => exact absurd rfl (Test.ne_of_lexemes happ).1
    | not h' => exact absurd rfl (Test.ne_of_lexemes happ).2
  | group h ih =>
    cases h' with
    | test t => exact absurd rfl (Test.ne_of_lexemes happ.symm).1
    | group h' =>
      simp only [List.cons_append, List.append_assoc, List.nil_append, List.cons.injEq,
        true_and] at happ
      obtain ⟨rfl, rfl, hr⟩ := ih h' happ ⟨nofun, nofun⟩ ⟨nofun, nofun⟩
      exact ⟨rfl, rfl, (List.cons.inj hr).2⟩
    | not h' => cases (List.cons.inj happ).1
  | not h ih =>
    cases h' with
    | test t => exact absurd rfl (Test.ne_of_lexemes happ.symm).2
    | group h' => cases (List.cons.inj happ).1
    | not h' =>
      obtain ⟨rfl, rfl, rfl⟩ := ih h' (List.cons.inj happ).2 trivial trivial
      exact ⟨rfl, rfl, rfl⟩
  | factor h ih =>
    cases h' with
    | factor h' => exact ih h' happ trivial trivial
    | and h' hs' =>
      rw [List.append_assoc] at happ
      obtain ⟨-, -, rfl⟩ := ih h' happ trivial trivial
      exact absurd rfl hr
  | and h hs ih ihs =>
    rw [List.append_assoc] at happ
    cases h' with
    | factor h' =>
      obtain ⟨-, -, rfl⟩ := ih h' happ trivial trivial
      exact absurd rfl hr'
    | and h' hs' =>
      rw [List.append_assoc] at happ
      obtain ⟨rfl, rfl, hrest⟩ := ih h' happ trivial trivial
      obtain ⟨rfl, rfl, rfl⟩ := ihs hs' (List.cons.inj hrest).2 hr hr'
      exact ⟨rfl, rfl, rfl⟩
  | term h ih =>
    cases h' with
    | term h' => exact ih h' happ hr.1 hr'.1
    | or h' hs' =>
      rw [List.append_assoc] at happ
      obtain ⟨-, -, rfl⟩ := ih h' happ hr.1 nofun
      exact absurd rfl hr.2
  | or h hs ih ihs =>
    rw [List.append_assoc] at happ
    cases h' with
    | term h' =>
      obtain ⟨-, -, rfl⟩ := ih h' happ nofun hr'.1
      exact absurd rfl hr'.2
    | or h' hs' =>
      rw [List.append_assoc] at happ
      obtain ⟨rfl, rfl, hrest⟩ := ih h' happ nofun nofun
      obtain ⟨rfl, rfl, rfl⟩ := ihs hs' (List.cons.inj hrest).2 hr hr'
      exact ⟨rfl, rfl, rfl⟩

theorem Reads.unique {ls : List Lexeme} {e e' : Expr} (h : Reads .condition ls e)
    (h' : Reads .condition ls e') : e = e' :=
  (h.unique_append h' (show ls ++ [] = ls ++ [] from rfl) ⟨nofun, nofun⟩ ⟨nofun, nofun⟩).1

/-- A text is read as a condition, when `bound` values have been numbered before it. -/
def IsReading (bound : Nat) (s : String) (e : Expr) : Prop :=
  ∃ ls, Lexes bound s.toList ls ∧ Reads .condition ls e

theorem IsReading.unique {bound : Nat} {s : String} {e e' : Expr} (h : IsReading bound s e)
    (h' : IsReading bound s e') : e = e' := by
  obtain ⟨ls, hls, he⟩ := h
  obtain ⟨ls', hls', he'⟩ := h'
  rw [hls'.unique hls] at he'
  exact he.unique he'

/-! ## Truth -/

/-- The value of a term on a row, given the values of the places. -/
def Term.value (row : Row) (place : Nat → Value) : Term → Value
  | .column s => row.value s
  | .place n => place n

/-- A comparison of two values is unknown if one of them is null. -/
def unlessNull (v w : Value) (b : Bool) : Option Bool :=
  if v.isNull || w.isNull then none else some b

/-- The orders that a sign admits. -/
def Sign.admits : Sign → Ordering → Bool
  | eq => Ordering.isEq
  | lt => Ordering.isLT
  | lte => Ordering.isLE
  | gt => Ordering.isGT
  | gte => Ordering.isGE

/-- The truth of a comparison. Values without an order compare in no way. -/
def Sign.eval (s : Sign) (v w : Value) : Option Bool :=
  unlessNull v w ((v.compare? w).any s.admits)

/-- The truth of "and": false if one side is, and unknown if that is open. -/
def both : Option Bool → Option Bool → Option Bool
  | some false, _ | _, some false => some false
  | some true, some true => some true
  | _, _ => none

/-- The truth of "or": true if one side is, and unknown if that is open. -/
def either : Option Bool → Option Bool → Option Bool
  | some true, _ | _, some true => some true
  | some false, some false => some false
  | _, _ => none

/-- The truth of a test on a row, given the values of the places. -/
def Test.eval (like : String → List Char → Bool) (row : Row) (place : Nat → Value) :
    Test → Option Bool
  | compare s t u => s.eval (t.value row place) (u.value row place)
  | .like t u =>
    let v := t.value row place
    let w := u.value row place
    unlessNull v w (matchValue like v w)
  | isIn t u us =>
    let equals (w : Term) := Sign.eq.eval (t.value row place) (w.value row place)
    us.foldl (fun b w => either b (equals w)) (equals u)
  | between t u v =>
    both (Sign.gte.eval (t.value row place) (u.value row place))
      (Sign.lte.eval (t.value row place) (v.value row place))
  | isNull t => some (t.value row place).isNull
  | isTruth t b => some (((t.value row place).compare? (.bool b)).any Ordering.isEq)

/-- The truth of a condition on a row, given how texts are matched and the values of the places. -/
def Expr.eval (like : String → List Char → Bool) (row : Row) (place : Nat → Value) :
    Expr → Option Bool
  | test t => t.eval like row place
  | not e => (e.eval like row place).map (!·)
  | and e f => both (e.eval like row place) (f.eval like row place)
  | or e f => either (e.eval like row place) (f.eval like row place)

@[simp] theorem both_some (a b : Bool) : both (some a) (some b) = some (a && b) := by
  cases a <;> cases b <;> rfl

@[simp] theorem either_some (a b : Bool) : either (some a) (some b) = some (a || b) := by
  cases a <;> cases b <;> rfl

/-- Values that are not null compare in a known way. -/
theorem unlessNull_eq_some {v w : Value} (hv : v ≠ .null) (hw : w ≠ .null) (b : Bool) :
    unlessNull v w b = some b := by
  have hisNull : ∀ {u : Value}, u ≠ .null → u.isNull = false := by
    intro u hu
    cases u with
    | null => exact absurd rfl hu
    | _ => rfl
  rw [unlessNull, hisNull hv, hisNull hw]
  rfl

theorem Sign.eval_eq_some (s : Sign) {v w : Value} (hv : v ≠ .null) (hw : w ≠ .null) :
    s.eval v w = some ((v.compare? w).any s.admits) :=
  unlessNull_eq_some hv hw _

end RowQuery.Sql
