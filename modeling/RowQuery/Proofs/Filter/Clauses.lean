import RowQuery.Proofs.Filter.Layout
import RowQuery.Proofs.Result

/-!
# Tokens that stand for clauses

A token stands for a clause if its parts can be understood, and a list of tokens for a list of
clauses if each of them does and the first names a field. What a clause is like can so be read off
its token, and the other way round. Where the token stands makes no difference.

* `ofToken_eq_ok`, `ofTokens_eq_ok`: which tokens stand for clauses, and for which;
* `parse_strict_eq_ok`: which texts are read strictly;
* `parse_append`: two texts that are read strictly make up one, with the clauses of both.
-/

namespace RowQuery

open Text (isWord byteLength)

namespace Clause

/-! ## Single tokens -/

/-- The connector that a token has, if it has one. -/
def readConnector (t : Token) : Except FilterError (Option Connector) :=
  if t.connector = "" then .ok none else (Connector.read t.connector).map some

theorem ofToken_eq_bind (t : Token) : ofToken t = (do
    let connector? ← readConnector t
    if connector?.isSome && decide (t.field = "") then throw (.missingField t.position)
    let separator ← Connector.read t.separator
    let operator ← Operator.read t.operator
    if t.tilde ≠ "" ∧ t.tilde ≠ "~" then throw (.unknownOperator (t.tilde ++ operator.keyword))
    return ⟨connector?, if t.field = "" then none else some t.field, separator,
      decide (t.tilde = "~"), operator, t.value⟩) := by
  rw [ofToken, readConnector]
  by_cases hf : t.field = ""
  · simp only [hf, if_pos, Option.isNone_none, decide_true]
    split <;> rfl
  · simp only [hf, Option.isNone_some, decide_false, if_false]
    split <;> rfl

/-- Which tokens stand for clauses, and for which. -/
theorem ofToken_eq_ok {t : Token} {c : Clause} : ofToken t = .ok c ↔
    readConnector t = .ok c.connector? ∧ Connector.read t.separator = .ok c.separator ∧
      Operator.read t.operator = .ok c.operator ∧ t.tilde ∈ ["", "~"] ∧
      (c.connector?.isSome → t.field ≠ "") ∧
      c.field? = (if t.field = "" then none else some t.field) ∧
      c.negated = decide (t.tilde = "~") ∧ c.value = t.value := by
  have htilde : t.tilde ∈ ["", "~"] ↔ ¬ (t.tilde ≠ "" ∧ t.tilde ≠ "~") := by
    simp [Classical.or_iff_not_imp_left]
  rw [ofToken_eq_bind, htilde]
  constructor
  · intro h
    obtain ⟨k?, hk, h⟩ := bind_eq_ok.1 h
    dsimp only at h
    split at h
    · cases h
    rename_i hfield
    obtain ⟨separator, hseparator, h⟩ := bind_eq_ok.1 h
    obtain ⟨operator, hoperator, h⟩ := bind_eq_ok.1 h
    split at h
    · cases h
    rename_i htilde
    cases h
    exact ⟨hk, hseparator, hoperator, htilde, by simpa using hfield, rfl, rfl, rfl⟩
  · obtain ⟨k?, f?, separator, negated, operator, value⟩ := c
    rintro ⟨hk, hseparator, hoperator, htilde, hfield, rfl, rfl, rfl⟩
    have hfield' : ¬ (k?.isSome && decide (t.field = "")) = true := by simpa using hfield
    refine bind_eq_ok.2 ⟨k?, hk, ?_⟩
    dsimp only
    rw [if_neg hfield']
    refine bind_eq_ok.2 ⟨separator, hseparator, bind_eq_ok.2 ⟨operator, hoperator, ?_⟩⟩
    rw [if_neg htilde]
    rfl

/-- The clause of a token does not depend on where the token stands. -/
theorem ofToken_moveTo {t : Token} {c : Clause} (h : ofToken t = .ok c) (p : Nat) :
    ofToken (t.moveTo p) = .ok c := by
  have hspec := ofToken_eq_ok.1 h
  exact (ofToken_eq_ok (t := t.moveTo p)).2 hspec

/-- A clause of an operator without negation that names no field, with the key of an operator as its
    value. -/
def ReadsOn (c : Clause) : Prop :=
  c.field? = none ∧ c.negated = false ∧
    ∃ (op : Operator) (negated : Bool), c.value = op.key negated

theorem readsOn_of_ofToken {t : Token} {c : Clause} (h : ofToken t = .ok c) (ht : t.ReadsOn) :
    c.ReadsOn := by
  obtain ⟨-, -, -, -, -, hfield, hnegated, hvalue⟩ := ofToken_eq_ok.1 h
  obtain ⟨-, hf, htilde, hkey⟩ := ht
  rw [if_pos hf] at hfield
  rw [htilde] at hnegated
  exact ⟨hfield, hnegated, by rwa [hvalue]⟩

/-! ## Texts -/

/-- Tokens stand for clauses if each of them does and the first names a field. -/
theorem ofTokens_eq_ok {ts : List Token} {cs : List Clause} : ofTokens ts = .ok cs ↔
    ts.mapM ofToken = .ok cs ∧ ∀ c, cs.head? = some c → c.field?.isSome = true := by
  cases ts with
  | nil =>
    constructor
    · intro h
      cases h
      exact ⟨rfl, nofun⟩
    · rintro ⟨h, -⟩
      cases h
      rfl
  | cons t ts =>
    rw [ofTokens, mapM_cons_eq_ok, bind_eq_ok]
    constructor
    · rintro ⟨c, hc, h⟩
      dsimp only at h
      split at h
      · cases h
      rename_i hfield
      obtain ⟨cs, hcs, h⟩ := bind_eq_ok.1 h
      cases h
      refine ⟨⟨c, cs, hc, hcs, rfl⟩, fun d hd => ?_⟩
      cases hd
      rwa [Bool.not_eq_true, Option.isNone_eq_false_iff] at hfield
    · rintro ⟨⟨c, cs, hc, hcs, rfl⟩, hfield⟩
      refine ⟨c, hc, ?_⟩
      have hfield' : ¬ c.field?.isNone = true := by
        rw [Bool.not_eq_true, Option.isNone_eq_false_iff]
        exact hfield c rfl
      dsimp only
      rw [if_neg hfield']
      exact bind_eq_ok.2 ⟨cs, hcs, rfl⟩

/-- What is read in either mode is what the tokens of the text stand for. -/
theorem ofTokens_of_parse {mode : Mode} {s : String} {cs : List Clause}
    (h : parse mode s = .ok cs) : ofTokens (scan s).tokens = .ok cs := by
  obtain ⟨found, hfound, h⟩ := bind_eq_ok.1 h
  unfold Scan.checked at hfound
  split at hfound
  · cases hfound
  · cases hfound
    exact h

/-- A text is read strictly if it is laid out without gaps and its tokens stand for clauses. -/
theorem parse_strict_eq_ok {s : String} {cs : List Clause} : parse .strict s = .ok cs ↔
    ∃ ts, Laid 0 s.toList ts ∧ ofTokens ts = .ok cs := by
  constructor
  · intro h
    cases hs : (scan s).skipped with
    | nil =>
      have hscan : scan s = ⟨(scan s).tokens, []⟩ := by rw [← hs]
      rw [parse_of_scan hscan] at h
      exact ⟨_, scan_eq_iff.1 hscan, h⟩
    | cons gap gaps =>
      simp only [parse, Scan.checked, hs] at h
      cases h
  · rintro ⟨ts, hlaid, h⟩
    rwa [parse_of_scan (scan_eq_iff.2 hlaid)]

/-- What is read strictly is read alike in every mode. -/
theorem parse_of_strict {s : String} {cs : List Clause} (h : parse .strict s = .ok cs)
    (mode : Mode) : parse mode s = .ok cs := by
  obtain ⟨ts, hlaid, h⟩ := parse_strict_eq_ok.1 h
  rwa [parse_of_scan (scan_eq_iff.2 hlaid)]

/-- The first clause of a text names a field. -/
theorem exists_field_of_parse {s : String} {c : Clause} {cs : List Clause}
    (h : parse .strict s = .ok (c :: cs)) : ∃ f, c.field? = some f := by
  obtain ⟨_, _, h⟩ := parse_strict_eq_ok.1 h
  exact Option.isSome_iff_exists.1 ((ofTokens_eq_ok.1 h).2 c rfl)

variable {mark : Char} {rest : List Char}

/-- The first clause of a text that begins with a mark names the word behind the mark. -/
theorem exists_head_of_mark {s : String} {cs : List Clause} (h : parse .strict s = .ok cs)
    (hmark : Token.isMark mark = true) (hrest : s.toList = mark :: rest) :
    ∃ d ds, cs = d :: ds ∧ d.field? = some (String.ofList (rest.takeWhile isWord)) := by
  obtain ⟨ts, hlaid, hts⟩ := parse_strict_eq_ok.1 h
  rw [hrest] at hlaid
  obtain ⟨t, ts, rfl, hread⟩ := hlaid.of_mark hmark
  obtain ⟨d, ds, hd, -, rfl⟩ := mapM_cons_eq_ok.1 (ofTokens_eq_ok.1 hts).1
  refine ⟨d, ds, rfl, ?_⟩
  obtain ⟨f, hf⟩ := exists_field_of_parse h
  obtain ⟨-, -, -, -, -, hfield, -, -⟩ := ofToken_eq_ok.1 hd
  rw [hf] at hfield ⊢
  split at hfield
  · cases hfield
  · rename_i hne
    rw [hfield, Token.field_of_mark hmark hread hne]

/-- Two texts that are read strictly, the second of which begins with a mark, make up one that is
    read strictly, with the clauses of both. The last clause of the first must not read on. -/
theorem parse_append {a b : String} {as bs : List Clause} (ha : parse .strict a = .ok as)
    (hb : parse .strict b = .ok bs) (hmark : Token.isMark mark = true)
    (hrest : b.toList = mark :: rest) (hlast : ∀ c, as.getLast? = some c → ¬ c.ReadsOn) :
    parse .strict (a ++ b) = .ok (as ++ bs) := by
  obtain ⟨ts, hts, has⟩ := parse_strict_eq_ok.1 ha
  obtain ⟨us, hus, hbs⟩ := parse_strict_eq_ok.1 hb
  obtain ⟨has, hahead⟩ := ofTokens_eq_ok.1 has
  obtain ⟨hbs, hbhead⟩ := ofTokens_eq_ok.1 hbs
  -- The tokens of the second text stand behind the whole first one.
  let move (t : Token) : Token := t.moveTo (byteLength a.toList + t.position)
  have hmoved : Laid (byteLength a.toList + 0) b.toList (us.map move) := hus.moved _
  refine parse_strict_eq_ok.2 ⟨ts ++ us.map move, ?_, ?_⟩
  · rw [String.toList_append]
    refine hts.append ?_ (hrest ▸ Token.takeBare_mark hmark rest) ?_
    · rw [Nat.zero_add]
      exact hmoved
    · rintro t ht ⟨hon, -⟩
      obtain ⟨before, rfl⟩ := List.getLast?_eq_some_iff.1 ht
      obtain ⟨cs, ds, -, hds, rfl⟩ := mapM_append_eq_ok.1 has
      obtain ⟨c, ds', hc, hnil, rfl⟩ := mapM_cons_eq_ok.1 hds
      cases hnil
      exact hlast c (by simp) (readsOn_of_ofToken hc hon)
  · have hmove : (us.map move).mapM ofToken = .ok bs :=
      mapM_map_eq_ok (f := ofToken) (g := move) (fun _ _ h => ofToken_moveTo h _) hbs
    refine ofTokens_eq_ok.2 ⟨mapM_append_eq_ok.2 ⟨as, bs, has, hmove, rfl⟩, fun c hc => ?_⟩
    cases as with
    | nil => exact hbhead c hc
    | cons d ds => exact hahead c hc

end Clause

end RowQuery
