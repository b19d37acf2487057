import RowQuery.Proofs.Filter.Grammar

/-!
# What a scan finds

A scan goes through a text once. `Scanned` tells its run without counters: at each place a token is
read and passed over as a whole, or no token can be read and one character is passed over. What a
run finds is proved by induction over it.

* `scanFrom_scanned`: a scan is such a run;
* `Scanned.token_at`: a token stands in the text where its position says, and was read there;
* `Scanned.read?_eq_none`: outside of all tokens nothing can be read;
* `scan_grammar`: a scan recognises the grammar of tokens, from the left and greedily.
-/

namespace RowQuery

open Text (byteLength)

/-- A run over a text that begins at a position, and the pieces it leaves. -/
inductive Scanned : Nat → List Char → List Piece → Prop
  | done (p : Nat) : Scanned p [] []
  | token {p : Nat} {t : Token} {after : List Char} {ps : List Piece} :
    Token.read? p (t.chars ++ after) = some t →
    Scanned (p + byteLength t.chars) after ps → Scanned p (t.chars ++ after) (.token t :: ps)
  | stray {p : Nat} {c : Char} {s : List Char} {ps : List Piece} :
    Token.read? p (c :: s) = none →
    Scanned (p + c.utf8Size) s ps → Scanned p (c :: s) (Piece.consStray p c ps)

/-- What a token takes up is passed over. -/
theorem scanFrom_append (v s : List Char) (p : Nat) :
    scanFrom p v.length (v ++ s) = scanFrom (p + byteLength v) 0 s := by
  induction v generalizing p with
  | nil => rfl
  | cons c v ih =>
    rw [List.length_cons, List.cons_append, scanFrom, ih, Text.byteLength_cons, Nat.add_assoc]

theorem Token.chars_ne_nil (t : Token) : t.chars ≠ [] := by
  simp [Token.chars]

/-- A token that is read is passed over as a whole. -/
theorem scanFrom_token {p : Nat} {t : Token} {after : List Char}
    (h : Token.read? p (t.chars ++ after) = some t) :
    scanFrom p 0 (t.chars ++ after) =
      .token t :: scanFrom (p + byteLength t.chars) 0 after := by
  obtain ⟨c, v, hv⟩ := List.exists_cons_of_ne_nil t.chars_ne_nil
  have hskip : t.chars.length - 1 = v.length := by rw [hv]; rfl
  rw [hv, List.cons_append] at h ⊢
  rw [scanFrom, h]
  simp only [hskip, scanFrom_append, Nat.add_assoc]
  rw [← Text.byteLength_cons]

theorem scanFrom_scanned (p : Nat) (s : List Char) : Scanned p s (scanFrom p 0 s) := by
  -- A token is passed over in one go, so the induction is on the length of what is left.
  induction hn : s.length using Nat.strongRecOn generalizing p s with
  | ind n ih =>
    subst hn
    cases s with
    | nil => exact .done p
    | cons c s =>
      cases h : Token.read? p (c :: s) with
      | none =>
        rw [scanFrom, h]
        exact .stray h (ih _ (Nat.lt_succ_self _) _ _ rfl)
      | some t =>
        obtain ⟨after, hafter, -⟩ := (Token.formed_of_read? h).2.2.1
        have hlt : after.length < (c :: s).length := by
          have := List.length_pos_iff.2 t.chars_ne_nil
          rw [hafter, List.length_append]
          omega
        rw [hafter] at h ⊢
        rw [scanFrom_token h]
        exact .token h (ih _ hlt _ _ rfl)

/-- A text has no other run than its scan. -/
theorem Scanned.eq_scanFrom {p : Nat} {s : List Char} {ps : List Piece} (h : Scanned p s ps) :
    ps = scanFrom p 0 s := by
  induction h with
  | done => rfl
  | token hread _ ih => rw [scanFrom_token hread, ih]
  | stray hnone _ ih => rw [scanFrom, hnone, ih]

namespace Scanned

variable {p : Nat} {s : List Char} {ps : List Piece}

theorem filterMap_consStray (c : Char) :
    (Piece.consStray p c ps).filterMap Piece.token? = ps.filterMap Piece.token? := by
  cases ps with
  | nil => rfl
  | cons q ps => cases q <;> rfl

/-- A token stands in the text where its position says, and was read there. -/
theorem token_at (h : Scanned p s ps) {t : Token} (ht : t ∈ ps.filterMap Piece.token?) :
    ∃ before after, s = before ++ (t.chars ++ after) ∧ t.position = p + byteLength before ∧
      Token.read? t.position (t.chars ++ after) = some t := by
  induction h with
  | done => cases ht
  | @token p u after ps hread _ ih =>
    rcases List.mem_cons.1 ht with rfl | ht
    · have hp := (Token.formed_of_read? hread).2.1
      exact ⟨[], after, rfl, hp, hp ▸ hread⟩
    · obtain ⟨before, after', rfl, hp, hread'⟩ := ih ht
      refine ⟨u.chars ++ before, after', by simp, ?_, hread'⟩
      rw [hp, Text.byteLength_append, Nat.add_assoc]
  | @stray p c s ps _ _ ih =>
    rw [filterMap_consStray] at ht
    obtain ⟨before, after, rfl, hp, hread⟩ := ih ht
    refine ⟨c :: before, after, rfl, ?_, hread⟩
    rw [hp, Text.byteLength_cons, Nat.add_assoc]

end Scanned

/-- Whether a token takes up the byte at a position. -/
def Token.Covers (t : Token) (n : Nat) : Prop :=
  t.position ≤ n ∧ n < t.position + byteLength t.chars

theorem Text.byteLength_pos {s : List Char} (h : s ≠ []) : 0 < byteLength s := by
  obtain ⟨c, s, rfl⟩ := List.exists_cons_of_ne_nil h
  rw [byteLength_cons]
  exact Nat.add_pos_left c.utf8Size_pos _

/-- Outside of all tokens nothing can be read. -/
theorem Scanned.read?_eq_none {p : Nat} {s : List Char} {ps : List Piece} (h : Scanned p s ps)
    {before after : List Char} (hs : s = before ++ after)
    (hout : ∀ t ∈ ps.filterMap Piece.token?, ¬ t.Covers (p + byteLength before)) :
    ∃ q, Token.read? q after = none := by
  induction h generalizing before with
  | done p =>
    obtain ⟨-, rfl⟩ := List.append_eq_nil_iff.1 hs.symm
    exact ⟨p, rfl⟩
  | @token p t rest ps hread _ ih =>
    have hp := (Token.formed_of_read? hread).2.1
    have hnot := hout t List.mem_cons_self
    rw [Token.Covers, hp] at hnot
    -- The place lies behind the token, since it does not lie within.
    obtain ⟨before', rfl, hrest⟩ : ∃ before',
        before = t.chars ++ before' ∧ rest = before' ++ after := by
      rcases List.append_eq_append_iff.1 hs with ⟨m, hb, hr⟩ | ⟨m, ht, ha⟩
      · exact ⟨m, hb, hr⟩
      · cases m with
        | nil => exact ⟨[], by simpa using ht.symm, by simpa using ha.symm⟩
        | cons c m =>
          have hpos := Text.byteLength_pos (List.cons_ne_nil c m)
          rw [ht, Text.byteLength_append] at hnot
          omega
    refine ih hrest fun u hu => ?_
    have := hout u (List.mem_cons_of_mem _ hu)
    rwa [Text.byteLength_append, ← Nat.add_assoc] at this
  | @stray p c s ps hnone _ ih =>
    rw [Scanned.filterMap_consStray] at hout
    cases before with
    | nil =>
      obtain rfl : c :: s = after := hs
      exact ⟨p, hnone⟩
    | cons d before =>
      obtain ⟨rfl, hs'⟩ : c = d ∧ s = before ++ after := List.cons.inj hs
      refine ih hs' fun u hu => ?_
      have := hout u hu
      rwa [Text.byteLength_cons, ← Nat.add_assoc] at this

/-- A scan recognises the grammar of tokens. Each token it finds is one of the grammar and stands at
    its position. It has a connector if any token there has one, and a bare value ends where no
    longer one could. Outside of the tokens found no token of the grammar begins. -/
theorem scan_grammar (input : String) :
    (∀ t ∈ (scan input).tokens, t.Formed ∧
      ∃ before after, input.toList = before ++ (t.chars ++ after) ∧
        t.position = byteLength before ∧
        (t.connector = "" → ∀ u : Token, u.Formed → u.connector ≠ "" →
          ¬ u.chars <+: t.chars ++ after) ∧
        (Token.BareRun t.value.toList → ∀ more, more ≠ [] → more <+: after →
          ¬ Token.BareRun (t.value.toList ++ more))) ∧
    ∀ before after, input.toList = before ++ after →
      (∀ t ∈ (scan input).tokens, ¬ t.Covers (byteLength before)) →
      ∀ u : Token, u.Formed → ¬ u.chars <+: after := by
  have hscanned : Scanned 0 input.toList (pieces input) := scanFrom_scanned 0 input.toList
  constructor
  · intro t ht
    obtain ⟨before, after, hs, hp, hread⟩ := hscanned.token_at ht
    obtain ⟨hformed, -, ⟨after', hafter, hlongest⟩, hmark⟩ := Token.formed_of_read? hread
    obtain rfl : after = after' := List.append_cancel_left hafter
    refine ⟨hformed, before, after, hs, by rw [hp, Nat.zero_add], hmark, ?_⟩
    exact fun _ more hne hpre hrun => hne (hlongest more hrun hpre)
  · rintro before after hs hout u hu ⟨rest, rfl⟩
    obtain ⟨q, hnone⟩ := hscanned.read?_eq_none hs fun t ht => (Nat.zero_add _).symm ▸ hout t ht
    have hsome := Token.read?_isSome hu q rest
    rw [hnone] at hsome
    cases hsome

end RowQuery
