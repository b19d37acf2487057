import RowQuery.Filter.Clause
import RowQuery.Proofs.Filter.Rereading
import RowQuery.Proofs.Filter.Scanning

/-!
# Texts without gaps

A text of which a scan skips nothing consists of tokens and white space (`Laid`). Said so, a scan
can be run backwards: tokens are written one behind the other and found again, and two texts are put
together. Nothing marks where a token ends, so at every seam the end of the first token and the
beginning of the second must not make up something else.

* `scan_eq_iff`: a scan skips nothing exactly if the text is laid out so;
* `Laid.append`: two such texts make up one;
* `scan_written`: tokens that are written one behind the other are scanned back.
-/

namespace RowQuery

open Text (isSpace byteLength)

/-- A text that consists of tokens and white space, with its tokens. -/
inductive Laid : Nat → List Char → List Token → Prop
  | done (p : Nat) : Laid p [] []
  | blank {p : Nat} {c : Char} {s : List Char} {ts : List Token} :
    isSpace c = true → Laid (p + c.utf8Size) s ts → Laid p (c :: s) ts
  | token {p : Nat} {t : Token} {after : List Char} {ts : List Token} :
    Token.read? p (t.chars ++ after) = some t →
    Laid (p + byteLength t.chars) after ts → Laid p (t.chars ++ after) (t :: ts)

namespace Scanned

variable {p : Nat} {s : List Char} {ps : List Piece}

theorem skipped?_gap_eq_none {p : Nat} {s : List Char} :
    (Piece.gap p s).skipped? = none ↔ ∀ c ∈ s, isSpace c = true := by
  rw [← Text.trim_eq_nil, Piece.skipped?]
  by_cases h : Text.trim s = []
  · simp [h]
  · simp [h]

/-- A stray character that is not skipped is white space. -/
theorem skipped_consStray {c : Char} : (Piece.consStray p c ps).filterMap Piece.skipped? = [] ↔
    isSpace c = true ∧ ps.filterMap Piece.skipped? = [] := by
  -- The character joins the gap in front, if there is one.
  have hcons : ∀ (q : Piece) (ps : List Piece), (q :: ps).filterMap Piece.skipped? = [] ↔
      q.skipped? = none ∧ ps.filterMap Piece.skipped? = [] := by
    intro q ps
    rw [List.filterMap_eq_nil_iff, List.filterMap_eq_nil_iff, List.forall_mem_cons]
  have hnew : ∀ ps : List Piece, (Piece.gap p [c] :: ps).filterMap Piece.skipped? = [] ↔
      isSpace c = true ∧ ps.filterMap Piece.skipped? = [] := by
    intro ps
    rw [hcons, skipped?_gap_eq_none, List.forall_mem_singleton]
  rcases ps with _ | ⟨t | ⟨q, s⟩, ps⟩
  · exact hnew []
  · exact hnew (.token t :: ps)
  · rw [Piece.consStray, hcons, hcons, skipped?_gap_eq_none, skipped?_gap_eq_none,
      List.forall_mem_cons, and_assoc]

/-- A text of which nothing is skipped consists of tokens and white space. -/
theorem laid (h : Scanned p s ps) (hs : ps.filterMap Piece.skipped? = []) :
    Laid p s (ps.filterMap Piece.token?) := by
  induction h with
  | done p => exact .done p
  | token hread _ ih => exact .token hread (ih hs)
  | stray _ _ ih =>
    obtain ⟨hc, hs⟩ := skipped_consStray.1 hs
    rw [filterMap_consStray]
    exact .blank hc (ih hs)

end Scanned

/-- Of a text that consists of tokens and white space, nothing is skipped. -/
theorem Laid.scanned {p : Nat} {s : List Char} {ts : List Token} (h : Laid p s ts) :
    ∃ ps, Scanned p s ps ∧ ps.filterMap Piece.token? = ts ∧ ps.filterMap Piece.skipped? = [] := by
  induction h with
  | done p => exact ⟨[], .done p, rfl, rfl⟩
  | @blank p c s ts hc _ ih =>
    obtain ⟨ps, hps, rfl, hskipped⟩ := ih
    exact ⟨_, .stray (Token.read?_space hc p s) hps, Scanned.filterMap_consStray c,
      Scanned.skipped_consStray.2 ⟨hc, hskipped⟩⟩
  | @token p t after ts hread _ ih =>
    obtain ⟨ps, hps, rfl, hskipped⟩ := ih
    exact ⟨_, .token hread hps, rfl, hskipped⟩

/-- A scan skips nothing exactly if the text consists of its tokens and white space. -/
theorem scan_eq_iff {s : String} {ts : List Token} : scan s = ⟨ts, []⟩ ↔ Laid 0 s.toList ts := by
  have hscanned : Scanned 0 s.toList (pieces s) := scanFrom_scanned 0 s.toList
  rw [scan, Scan.mk.injEq]
  constructor
  · rintro ⟨rfl, hskipped⟩
    exact hscanned.laid hskipped
  · intro h
    obtain ⟨ps, hps, rfl, hskipped⟩ := h.scanned
    rw [pieces, ← hps.eq_scanFrom]
    exact ⟨rfl, hskipped⟩

namespace Laid

variable {p : Nat} {s : List Char} {ts : List Token}

/-- A text without gaps can stand anywhere. -/
theorem moved (h : Laid p s ts) (n : Nat) :
    Laid (n + p) s (ts.map fun t => t.moveTo (n + t.position)) := by
  induction h with
  | done p => exact .done _
  | blank hc _ ih => exact .blank hc (by rwa [Nat.add_assoc])
  | @token p t after ts hread _ ih =>
    have hp : t.position = p := (Token.formed_of_read? hread).2.1
    have hread' := Token.read?_moveTo hread (n + p)
    rw [List.map_cons, hp]
    rw [← Nat.add_assoc] at ih
    exact .token (t := t.moveTo (n + p)) hread' ih

theorem eq_nil (h : Laid p [] ts) : ts = [] := by
  generalize hs : ([] : List Char) = s at h
  cases h with
  | done => rfl
  | blank => cases hs
  | @token _ t => exact absurd (List.append_eq_nil_iff.1 hs.symm).1 t.chars_ne_nil

theorem cons_cases {c : Char} (h : Laid p (c :: s) ts) :
    (isSpace c = true ∧ Laid (p + c.utf8Size) s ts) ∨
      ∃ t after us, c :: s = t.chars ++ after ∧ ts = t :: us ∧
        Token.read? p (c :: s) = some t ∧ Laid (p + byteLength t.chars) after us := by
  generalize hs : c :: s = s' at h
  cases h with
  | done => cases hs
  | blank hc h =>
    cases hs
    exact .inl ⟨hc, h⟩
  | token hread h => exact .inr ⟨_, _, _, rfl, rfl, hread, h⟩

/-- A text that begins with a mark begins with a token. -/
theorem of_mark {mark : Char} (hmark : Token.isMark mark = true) (h : Laid p (mark :: s) ts) :
    ∃ t us, ts = t :: us ∧ Token.read? p (mark :: s) = some t := by
  rcases h.cons_cases with ⟨hspace, -⟩ | ⟨t, -, us, -, rfl, hread, -⟩
  · rw [Token.not_isMark_of_isSpace hspace] at hmark
    cases hmark
  · exact ⟨t, us, rfl, hread⟩

/-- How a text without gaps begins: never so that a value in front would be extended by an escape,
    and behind the first mark of a token neither a quote nor an escape stands. -/
theorem head {c : Char} (h : Laid p (c :: s) ts) : c ≠ '\\' ∧
    (isSpace c = true ∨ ∃ d r, s = d :: r ∧ d ∉ ['"', '\'', '\\']) := by
  rcases h.cons_cases with ⟨hc, -⟩ | ⟨t, after, -, hs, -, hread, -⟩
  · refine ⟨?_, .inl hc⟩
    rintro rfl
    exact absurd hc (by decide)
  · obtain ⟨lead, hlead, hlength, hplain⟩ := (Token.formed_of_read? hread).1.exists_lead
    obtain ⟨a, d, w, rfl⟩ : ∃ a d w, lead = a :: d :: w := by
      match lead, hlength with
      | a :: d :: w, _ => exact ⟨a, d, w, rfl⟩
    rw [hlead] at hs
    obtain ⟨rfl, rfl⟩ := List.cons.inj hs
    refine ⟨fun hc => ?_, .inr ⟨d, _, rfl, hplain d (by simp)⟩⟩
    exact hplain c (by simp) (by simp [hc])

/-- A token in front of more text is read back as long as what comes directly behind it stays. -/
theorem read?_append {t : Token} {c : Char} {q : Nat} (h : Laid q (c :: s) ts)
    (hread : Token.read? p (t.chars ++ c :: s) = some t) (s' : List Char) :
    Token.read? p (t.chars ++ c :: (s ++ s')) = some t := by
  obtain ⟨ht, hmove, hv, hon⟩ := Token.of_read? hread
  obtain ⟨hc, hnext⟩ := h.head
  rw [← hmove]
  refine (Token.read?_chars_iff ht (Token.takeValue?_congr ht.value hc hv _)).2 ?_
  rintro ⟨hr, r, hcr, hsome⟩
  obtain ⟨rfl, rfl⟩ := List.cons.inj hcr
  rcases hnext with hspace | ⟨d, r, rfl, hd⟩
  · exact absurd hspace (by decide)
  · rw [List.cons_append, Token.takeValue?_isSome_cons hd] at hsome
    exact hon ⟨hr, _, rfl, by rwa [Token.takeValue?_isSome_cons hd]⟩

/-- Two texts without gaps make up one, if the second extends no value and does not turn the last
    token of the first into a field. -/
theorem append {s' : List Char} {ts' : List Token} (h : Laid p s ts)
    (h' : Laid (p + byteLength s) s' ts') (hvalue : Token.takeBare s' = [])
    (hlast : ∀ t, ts.getLast? = some t → ¬ (t.ReadsOn ∧ Token.GoesOn s')) :
    Laid p (s ++ s') (ts ++ ts') := by
  induction h with
  | done p => exact h'
  | blank hc _ ih =>
    rw [Text.byteLength_cons, ← Nat.add_assoc] at h'
    exact .blank hc (ih h' hlast)
  | @token p t after ts hread h ih =>
    rw [Text.byteLength_append, ← Nat.add_assoc] at h'
    rw [List.append_assoc, List.cons_append]
    have hrest := ih h' fun u hu => hlast u (by rw [List.getLast?_cons, hu]; rfl)
    refine .token ?_ hrest
    cases after with
    | nil =>
      -- The token is the last one, so that the second text comes directly behind it.
      obtain rfl := h.eq_nil
      obtain ⟨ht, hmove, -, -⟩ := Token.of_read? hread
      rw [← hmove]
      exact (Token.read?_chars_iff ht (Token.takeValue?_append ht.value hvalue)).2 (hlast t rfl)
    | cons c s => exact h.read?_append hread s'

end Laid

namespace Token

/-! ## Tokens written one behind the other -/

/-- The text of tokens. -/
def written (ts : List Token) : String :=
  String.ofList (ts.flatMap chars)

/-- Tokens with the positions they have when they are written from a position on. -/
def placed (p : Nat) : List Token → List Token
  | [] => []
  | t :: ts => t.moveTo p :: placed (p + byteLength t.chars) ts

theorem laid_chars {t : Token} (ht : t.Formed) (p : Nat) : Laid p t.chars [t.moveTo p] := by
  have hread : read? p (t.chars ++ []) = some (t.moveTo p) :=
    (read?_chars_iff ht (takeValue?_append ht.value rfl)).2 fun h => by
      obtain ⟨-, r, hr, -⟩ := h
      cases hr
  have := Laid.token (t := t.moveTo p) hread (.done _)
  rwa [List.append_nil] at this

/-- A token that has a connector, or no field, begins with a mark. -/
theorem chars_mark {t : Token} (ht : t.Formed) (h : t.connector ≠ "" ∨ t.field = "") :
    ∃ c s, t.chars = c :: s ∧ isMark c = true := by
  obtain ⟨mark, hsep, hmark⟩ := exists_mark ht.separator
  have hk := ht.connector
  simp only [List.mem_cons, List.not_mem_nil, or_false] at hk
  rw [chars_eq]
  rcases hk with hk | hk | hk
  · have hf := h.resolve_left (not_not_intro hk)
    exact ⟨mark, _, by rw [hk, body_of_field hf hsep]; rfl, hmark⟩
  · exact ⟨':', t.body, by rw [hk]; rfl, rfl⟩
  · exact ⟨'|', t.body, by rw [hk]; rfl, rfl⟩

/-- Tokens written one behind the other make up a text without gaps. -/
theorem laid_written {ts : List Token} (hformed : ∀ t ∈ ts, t.Formed)
    (hmarked : ∀ t ∈ ts.tail, t.connector ≠ "" ∨ t.field = "")
    (hclear : ∀ t u, [t, u] <:+: ts → t.ReadsOn → u.chars.head? ≠ some ':') (p : Nat) :
    Laid p (ts.flatMap chars) (placed p ts) := by
  induction ts generalizing p with
  | nil => exact .done p
  | cons t ts ih =>
    obtain ⟨ht, hts⟩ := List.forall_mem_cons.1 hformed
    have hrest := ih hts (fun u hu => hmarked u (List.mem_of_mem_tail hu))
      (fun u v huv => hclear u v (huv.trans (List.suffix_cons t ts).isInfix))
      (p + byteLength t.chars)
    rw [List.flatMap_cons]
    -- What follows is nothing, or a token that begins with a mark.
    cases ts with
    | nil => exact (laid_chars ht p).append hrest rfl fun _ _ h => nomatch h.2.choose_spec.1
    | cons u us =>
      obtain ⟨c, s, hu, hc⟩ := chars_mark (hts u List.mem_cons_self) (hmarked u List.mem_cons_self)
      rw [List.flatMap_cons, hu, List.cons_append] at hrest ⊢
      refine (laid_chars ht p).append hrest (takeBare_mark hc _) ?_
      rintro v hv ⟨hon, r, hr, -⟩
      obtain rfl : t.moveTo p = v := by simpa using hv
      refine hclear t u (List.prefix_append [t, u] us).isInfix hon ?_
      rw [hu, (List.cons.inj hr).1]
      rfl

end Token

theorem Clause.parse_of_scan {s : String} {ts : List Token} (h : scan s = ⟨ts, []⟩) (mode : Mode) :
    Clause.parse mode s = Clause.ofTokens ts := by
  rw [parse, h]
  cases mode <;> rfl

/-- Tokens that are written one behind the other are scanned back, each at the position where it
    begins, and nothing is skipped; the text has the clauses of these tokens. Every token but the
    first has to begin with a mark, and no colon may follow a token that reads on. -/
theorem scan_written {ts : List Token} (hformed : ∀ t ∈ ts, t.Formed)
    (hmarked : ∀ t ∈ ts.tail, t.connector ≠ "" ∨ t.field = "")
    (hclear : ∀ t u, [t, u] <:+: ts → t.ReadsOn → u.chars.head? ≠ some ':') :
    scan (Token.written ts) = ⟨Token.placed 0 ts, []⟩ ∧
      ∀ mode, Clause.parse mode (Token.written ts) = Clause.ofTokens (Token.placed 0 ts) := by
  have hscan : scan (Token.written ts) = ⟨Token.placed 0 ts, []⟩ := by
    rw [scan_eq_iff, Token.written, String.toList_ofList]
    exact Token.laid_written hformed hmarked hclear 0
  exact ⟨hscan, Clause.parse_of_scan hscan⟩

/-- A quoted value, an escaped one and one that is the key of an operator:
    `é:eq:"ü|"|~like:x\::b:in:1,2:eq:lt`. -/
theorem scan_written_four_tokens :
    let ts : List Token := [⟨"", "é", ":", "", "eq", "\"ü|\"", 0⟩, ⟨"", "", "|", "~", "like", "x\\:", 0⟩,
      ⟨":", "b", ":", "", "in", "1,2", 0⟩, ⟨"", "", ":", "", "eq", "lt", 0⟩]
    Token.written ts = "é:eq:\"ü|\"|~like:x\\::b:in:1,2:eq:lt" ∧
      scan (Token.written ts) = ⟨[⟨"", "é", ":", "", "eq", "\"ü|\"", 0⟩,
        ⟨"", "", "|", "~", "like", "x\\:", 11⟩, ⟨":", "b", ":", "", "in", "1,2", 21⟩,
        ⟨"", "", ":", "", "eq", "lt", 30⟩], []⟩ := by
  intro ts
  have hvalue : ∀ v : List Char, Token.takeValue? v = some v → Token.IsValue v :=
    fun v h => (Token.isValue_of_takeValue? h).1
  have hfield : ∀ s : List Char, s.all Text.isWord = true → ∀ c ∈ s, Text.isWord c = true :=
    fun _ => List.all_eq_true.1
  have hformed : ∀ t ∈ ts, t.Formed := by
    simp only [ts, List.forall_mem_cons]
    refine ⟨⟨?_, hfield _ ?_, ?_, ?_, ⟨.eq, rfl⟩, hvalue _ ?_⟩,
      ⟨?_, hfield _ ?_, ?_, ?_, ⟨.like, rfl⟩, hvalue _ ?_⟩,
      ⟨?_, hfield _ ?_, ?_, ?_, ⟨.isIn, rfl⟩, hvalue _ ?_⟩,
      ⟨?_, hfield _ ?_, ?_, ?_, ⟨.eq, rfl⟩, hvalue _ ?_⟩, nofun⟩
    all_goals decide
  refine ⟨by decide, ?_⟩
  refine (scan_written hformed (by decide) fun t u htu hon => ?_).1
  -- Only the last token reads on, and nothing follows it.
  simp only [ts, List.infix_cons_iff, List.cons_prefix_cons, List.prefix_nil, List.infix_nil] at htu
  rcases htu with ⟨rfl, -⟩ | ⟨rfl, -⟩ | ⟨rfl, -⟩ | ⟨-, h⟩ | h
  · exact absurd hon.2.1 (by decide)
  · exact absurd hon.2.2.1 (by decide)
  · exact absurd hon.1 (by decide)
  · cases h
  · cases h

end RowQuery
