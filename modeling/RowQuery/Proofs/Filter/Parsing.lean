import Mathlib.Data.List.Find
import RowQuery.Proofs.Filter.Scanning
import RowQuery.Proofs.Filter.Writing

/-!
# What is wrong with a filter

A scan finds only tokens of the grammar, and of these every part can be understood. So nothing can
be wrong with a token but that it needs a field and names none, and nothing with a text but that,
or in strict mode that a part of it is no clause. If nothing is wrong, there is a clause for each
token, and the clause tells the token but for its position.

* `token_of_ofToken`: what a token stands for tells the token;
* `ofToken_eq_error_iff`, `ofTokens_eq_error_iff`: which tokens of the grammar stand for nothing;
* `parse_strict_eq_lenient`, `parse_strict_eq_unrecognized_iff`: what strict mode adds;
* `unrecognized_or_missingField_of_parse`: what can be wrong with a text at all;
* `parse_reports`: what is reported of a text, and what its clauses are.
-/

namespace RowQuery

/-- Whether the `i`-th token of a filter, counted from zero, needs a field and names none. The first
    one needs a field, and so does one with a connector. -/
def Token.lacksField (t : Token) (i : Nat) : Bool :=
  t.field = "" && (i = 0 || t.connector ≠ "")

namespace Connector

theorem read_eq_ok {s : String} {k : Connector} : read s = .ok k ↔ s = k.symbol.toString := by
  refine ⟨fun h => ?_, fun h => h ▸ read_symbol k⟩
  rw [read] at h
  split at h
  · rename_i c hc
    split at h
    · rename_i k' hk
      cases h
      rw [ofSymbol?_eq_some_iff] at hk
      rw [← hk, ← String.toList_inj, hc, Char.toString, String.toList_singleton]
    · cases h
  · cases h

theorem exists_symbol {s : String} (h : s ∈ [":", "|"]) :
    ∃ k : Connector, s = k.symbol.toString := by
  simp only [List.mem_cons, List.not_mem_nil, or_false] at h
  exact h.elim (⟨and, ·⟩) (⟨or, ·⟩)

end Connector

theorem Operator.read_eq_ok {s : String} {op : Operator} : read s = .ok op ↔ s = op.keyword := by
  rw [← ofKeyword?_eq_some_iff, read]
  cases ofKeyword? s with
  | none => simp
  | some op' =>
    exact ⟨fun h => congrArg some (Except.ok.inj h),
      fun h => congrArg Except.ok (Option.some.inj h)⟩

namespace Clause

variable {t : Token} {c : Clause} {e : FilterError}

/-! ## Tokens -/

/-- What a token stands for tells the token, but for its position. -/
theorem token_of_ofToken (h : ofToken t = .ok c) : c.token = t.moveTo 0 ∧ c.field? ≠ some "" := by
  obtain ⟨hk, hseparator, hoperator, htilde, -, hfield, hnegated, hvalue⟩ := ofToken_eq_ok.1 h
  have hconnector : (c.connector?.map fun k => k.symbol.toString).getD "" = t.connector := by
    rw [readConnector] at hk
    split at hk
    · rename_i hempty
      rw [← Except.ok.inj hk, hempty]
      rfl
    · obtain ⟨k, hread, hsome⟩ := map_eq_ok.1 hk
      rw [← hsome, Connector.read_eq_ok.1 hread]
      rfl
  have hsign : (if c.negated then "~" else "") = t.tilde := by
    simp only [List.mem_cons, List.not_mem_nil, or_false] at htilde
    rw [hnegated]
    rcases htilde with htilde | htilde <;> rw [htilde] <;> rfl
  have hname : c.field?.getD "" = t.field ∧ c.field? ≠ some "" := by
    rw [hfield]
    split
    · rename_i hempty
      exact ⟨hempty.symm, (Option.some_ne_none "").symm⟩
    · rename_i hne
      exact ⟨rfl, fun h => hne (Option.some.inj h)⟩
  refine ⟨?_, hname.2⟩
  rw [token, hconnector, hsign, hname.1, ← Connector.read_eq_ok.1 hseparator,
    ← Operator.read_eq_ok.1 hoperator, hvalue]
  rfl

/-- The connector of a token of the grammar can be read. -/
theorem exists_readConnector (ht : t.Formed) :
    ∃ k?, readConnector t = .ok k? ∧ (k?.isSome = true ↔ t.connector ≠ "") := by
  rw [readConnector]
  by_cases hempty : t.connector = ""
  · exact ⟨none, if_pos hempty, by simp [hempty]⟩
  · obtain ⟨k, hk⟩ := Connector.exists_symbol ((List.mem_cons.1 ht.connector).resolve_left hempty)
    refine ⟨some k, ?_, by simp [hempty]⟩
    rw [if_neg hempty, Connector.read_eq_ok.2 hk]
    rfl

/-- A token of the grammar stands for a clause, unless it has a connector and names no field. -/
theorem ofToken_eq_error_iff (ht : t.Formed) : ofToken t = .error e ↔
    (t.field = "" ∧ t.connector ≠ "") ∧ e = .missingField t.position := by
  obtain ⟨k?, hk, hsome⟩ := exists_readConnector ht
  by_cases hlacks : t.field = "" ∧ t.connector ≠ ""
  · have hfield : (k?.isSome && decide (t.field = "")) = true := by
      rw [hsome.2 hlacks.2, decide_eq_true hlacks.1, Bool.and_self]
    have herror : ofToken t = .error (.missingField t.position) := by
      rw [ofToken_eq_bind, hk]
      show (if _ then _ else _ : Except FilterError Clause) = _
      rw [if_pos hfield]
      rfl
    rw [herror]
    exact ⟨fun h => ⟨hlacks, (Except.error.inj h).symm⟩, fun h => congrArg _ h.2.symm⟩
  · refine ⟨fun h => ?_, fun h => absurd h.1 hlacks⟩
    obtain ⟨op, hop⟩ := ht.operator
    obtain ⟨separator, hseparator⟩ := Connector.exists_symbol ht.separator
    have hok : ofToken t = .ok ⟨k?, if t.field = "" then none else some t.field, separator,
        decide (t.tilde = "~"), op, t.value⟩ :=
      ofToken_eq_ok.2 ⟨hk, Connector.read_eq_ok.2 hseparator, Operator.read_eq_ok.2 hop, ht.tilde,
        fun hconnector hfield => hlacks ⟨hfield, hsome.1 hconnector⟩, rfl, rfl, rfl⟩
    rw [hok] at h
    cases h

theorem not_isOk_ofToken (ht : t.Formed) :
    (!(ofToken t).isOk) = (decide (t.field = "") && decide (t.connector ≠ "")) := by
  rw [← Bool.decide_and, Bool.eq_iff_iff, decide_eq_true_iff]
  cases h : ofToken t with
  | error e => exact iff_of_true rfl ((ofToken_eq_error_iff ht).1 h).1
  | ok c =>
    refine iff_of_false Bool.false_ne_true fun hlacks => ?_
    rw [(ofToken_eq_error_iff ht).2 ⟨hlacks, rfl⟩] at h
    cases h

/-! ## Lists of tokens -/

/-- Behind the first token, a token lacks a field if it has a connector and names none. -/
theorem find?_lacksField {ts : List Token} {n : Nat} (hn : n ≠ 0) :
    (∃ i, ((ts.zipIdx n).find? fun x => x.1.lacksField x.2) = some (t, i)) ↔
      (ts.find? fun u => u.field = "" && u.connector ≠ "") = some t := by
  induction ts generalizing n with
  | nil => exact ⟨nofun, nofun⟩
  | cons u us ih =>
    have hu : u.lacksField n = (decide (u.field = "") && decide (u.connector ≠ "")) := by
      rw [Token.lacksField, decide_eq_false hn, Bool.false_or]
    rw [List.zipIdx_cons, List.find?_cons, List.find?_cons, hu]
    cases decide (u.field = "") && decide (u.connector ≠ "") with
    | true => simp
    | false => exact ih (Nat.succ_ne_zero n)

theorem ofTokens_of_field_eq_empty (ht : t.Formed) (hfield : t.field = "") (ts : List Token) :
    ofTokens (t :: ts) = .error (.missingField t.position) := by
  rw [ofTokens]
  cases hc : ofToken t with
  | error e =>
    rw [((ofToken_eq_error_iff ht).1 hc).2]
    rfl
  | ok c =>
    obtain ⟨-, -, -, -, -, hnone, -, -⟩ := ofToken_eq_ok.1 hc
    rw [if_pos hfield] at hnone
    show (if c.field?.isNone then _ else _ : Except FilterError (List Clause)) = _
    rw [hnone]
    rfl

theorem ofTokens_eq_error_iff_of_field (ht : t.Formed) (hfield : t.field ≠ "") (ts : List Token) :
    ofTokens (t :: ts) = .error e ↔ ts.mapM ofToken = .error e := by
  rw [ofTokens]
  cases hc : ofToken t with
  | error e' => exact absurd ((ofToken_eq_error_iff ht).1 hc).1.1 hfield
  | ok c =>
    obtain ⟨-, -, -, -, -, hsome, -, -⟩ := ofToken_eq_ok.1 hc
    rw [if_neg hfield] at hsome
    show (if c.field?.isNone then _ else _ : Except FilterError (List Clause)) = _ ↔ _
    rw [hsome]
    show (ts.mapM ofToken >>= fun cs => pure (c :: cs)) = _ ↔ _
    cases ts.mapM ofToken <;> simp [bind, Except.bind, pure, Except.pure]

/-- Tokens of the grammar stand for clauses, unless one of them lacks a field, and then the first
    such token is to blame. -/
theorem ofTokens_eq_error_iff {ts : List Token} (hts : ∀ t ∈ ts, t.Formed) :
    ofTokens ts = .error e ↔
      ∃ t i, (ts.zipIdx.find? fun x => x.1.lacksField x.2) = some (t, i) ∧
        e = .missingField t.position := by
  cases ts with
  | nil => exact ⟨nofun, fun ⟨_, _, h, _⟩ => nomatch h⟩
  | cons t ts =>
    obtain ⟨ht, hts⟩ := List.forall_mem_cons.1 hts
    have hfirst : t.lacksField 0 = decide (t.field = "") := Bool.and_true _
    rw [List.zipIdx_cons, List.find?_cons, hfirst]
    by_cases hfield : t.field = ""
    · rw [ofTokens_of_field_eq_empty ht hfield, decide_eq_true hfield]
      constructor
      · rintro h
        exact ⟨t, 0, rfl, (Except.error.inj h).symm⟩
      · rintro ⟨u, i, h, rfl⟩
        cases h
        rfl
    · rw [ofTokens_eq_error_iff_of_field ht hfield, mapM_eq_error_iff, decide_eq_false hfield,
        List.find?_congr fun u hu => not_isOk_ofToken (hts u hu)]
      refine exists_congr fun u => ?_
      rw [← find?_lacksField (Nat.succ_ne_zero 0), ← exists_and_right]
      refine exists_congr fun i => and_congr_right fun hu => ?_
      have hfound := (find?_lacksField (Nat.succ_ne_zero 0)).1 ⟨i, hu⟩
      have hlacks : u.field = "" ∧ u.connector ≠ "" := by simpa using List.find?_some hfound
      rw [ofToken_eq_error_iff (hts u (List.mem_of_find?_eq_some hfound))]
      exact and_iff_right hlacks

/-- Tokens of the grammar of which none lacks a field stand for one clause each, which tells its
    token. -/
theorem exists_ofTokens {ts : List Token} (hts : ∀ t ∈ ts, t.Formed)
    (hfields : (ts.zipIdx.find? fun x => x.1.lacksField x.2) = none) :
    ∃ cs, ofTokens ts = .ok cs ∧ cs.map token = ts.map (Token.moveTo 0) ∧
      ∀ c ∈ cs, c.field? ≠ some "" := by
  cases h : ofTokens ts with
  | error e =>
    obtain ⟨t, i, hlacks, -⟩ := (ofTokens_eq_error_iff hts).1 h
    rw [hfields] at hlacks
    cases hlacks
  | ok cs =>
    obtain ⟨hmap, -⟩ := ofTokens_eq_ok.1 h
    exact ⟨cs, rfl, map_eq_of_mapM (fun _ _ hc => (token_of_ofToken hc).1) hmap,
      forall_mem_of_mapM (fun _ _ hc => (token_of_ofToken hc).2) hmap⟩

/-! ## Texts -/

/-- The tokens of a scan are tokens of the grammar. -/
theorem formed_of_scan {input : String} : ∀ t ∈ (scan input).tokens, t.Formed := by
  intro t ht
  obtain ⟨before, after, -, -, hread⟩ := (scanFrom_scanned 0 input.toList).token_at ht
  exact (Token.formed_of_read? hread).1

/-- Strict mode makes no difference to a text without skipped input. -/
theorem parse_strict_eq_lenient {input : String} (h : (scan input).skipped = []) :
    parse .strict input = parse .lenient input := by
  simp only [parse, Scan.checked, h]

/-- Strict mode refuses a text with skipped input, for the first piece that is skipped. -/
theorem parse_strict_of_skipped {input : String} {gap : Skipped} {gaps : List Skipped}
    (h : (scan input).skipped = gap :: gaps) :
    parse .strict input = .error (.unrecognized gap.fragment gap.position) := by
  simp only [parse, Scan.checked, h]
  rfl

theorem parse_lenient_eq_error_iff {input : String} : parse .lenient input = .error e ↔
    ∃ t i, ((scan input).tokens.zipIdx.find? fun x => x.1.lacksField x.2) = some (t, i) ∧
      e = .missingField t.position :=
  ofTokens_eq_error_iff formed_of_scan

theorem missingField_of_parse_lenient {input : String} (h : parse .lenient input = .error e) :
    ∃ position, e = .missingField position := by
  obtain ⟨t, -, -, rfl⟩ := parse_lenient_eq_error_iff.1 h
  exact ⟨t.position, rfl⟩

/-- A text is not recognized if a piece of it is skipped, and the first such piece is reported. -/
theorem parse_strict_eq_unrecognized_iff {input fragment : String} {position : Nat} :
    parse .strict input = .error (.unrecognized fragment position) ↔
      (scan input).skipped.head? = some ⟨fragment, position⟩ := by
  cases hs : (scan input).skipped with
  | nil =>
    rw [parse_strict_eq_lenient hs]
    refine iff_of_false (fun h => ?_) nofun
    obtain ⟨_, h⟩ := missingField_of_parse_lenient h
    cases h
  | cons gap gaps =>
    rw [parse_strict_of_skipped hs, List.head?_cons]
    constructor
    · intro h
      cases h
      rfl
    · intro h
      rw [Option.some.inj h]

/-- No text is refused for an operator or a connector. -/
theorem unrecognized_or_missingField_of_parse {mode : Mode} {input : String}
    (h : parse mode input = .error e) :
    (∃ fragment position, e = .unrecognized fragment position) ∨
      ∃ position, e = .missingField position := by
  cases mode with
  | lenient => exact .inr (missingField_of_parse_lenient h)
  | strict =>
    cases hs : (scan input).skipped with
    | nil =>
      rw [parse_strict_eq_lenient hs] at h
      exact .inr (missingField_of_parse_lenient h)
    | cons gap gaps =>
      rw [parse_strict_of_skipped hs] at h
      exact .inl ⟨_, _, (Except.error.inj h).symm⟩

/-- What is reported of a text. Strict mode refuses it as not recognized if a part of it is skipped,
    and names the first such part; otherwise it does as lenient mode does. Lenient mode refuses it
    only if a token lacks a field, and names the position of the first such token. If none does,
    there is one clause for each token, in order, from which the token can be made again. No text is
    refused for an operator or a connector. -/
theorem parse_reports (input : String) :
    (∀ fragment position, parse .strict input = .error (.unrecognized fragment position) ↔
      (scan input).skipped.head? = some ⟨fragment, position⟩) ∧
    ((scan input).skipped = [] → parse .strict input = parse .lenient input) ∧
    (∀ e, parse .lenient input = .error e ↔
      ∃ t i, ((scan input).tokens.zipIdx.find? fun x => x.1.lacksField x.2) = some (t, i) ∧
        e = .missingField t.position) ∧
    (((scan input).tokens.zipIdx.find? fun x => x.1.lacksField x.2) = none →
      ∃ cs, parse .lenient input = .ok cs ∧
        cs.map token = (scan input).tokens.map (Token.moveTo 0) ∧
        ∀ c ∈ cs, c.field? ≠ some "") ∧
    ∀ mode e, parse mode input = .error e →
      (∃ fragment position, e = .unrecognized fragment position) ∨
        ∃ position, e = .missingField position := by
  exact ⟨fun _ _ => parse_strict_eq_unrecognized_iff, parse_strict_eq_lenient,
    fun _ => parse_lenient_eq_error_iff, exists_ofTokens formed_of_scan,
    fun _ _ => unrecognized_or_missingField_of_parse⟩

end Clause

end RowQuery
