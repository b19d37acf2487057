import Mathlib.Data.List.DropRight
import RowQuery.Proofs.Filter.Scanning

/-!
# A scan loses nothing

The tokens that a scan finds stand in the text where their positions say, one behind the other. What
lies in front of them, between them and behind them are the gaps, and each gap is white space or
leaves exactly one piece of skipped input. So tokens, skipped input and white space make up the
whole text (`Tiles`).

A run passes over a gap character by character. In the induction over it, the part of a gap that has
been passed over stands in front of the text that is left (`Scanned.tiles`).

* `leaves_skipped?`: what a gap leaves;
* `Scanned.tiles`: a run tiles its text;
* `Tiles.pairwise`: tokens come in the order of their positions and do not overlap;
* `scan_tiles`: a scan tiles its text.
-/

namespace RowQuery

open Text (isSpace byteLength)

/-- What a gap that begins at a position leaves of skipped input: nothing if it is white space, and
    otherwise itself without the white space at its ends. -/
inductive Leaves (p : Nat) : List Char → List Skipped → Prop
  | nothing {gap : List Char} (hgap : ∀ c ∈ gap, isSpace c = true) : Leaves p gap []
  | fragment {before fragment after : List Char} (hbefore : ∀ c ∈ before, isSpace c = true)
      (hafter : ∀ c ∈ after, isSpace c = true) (hne : fragment ≠ [])
      (hfirst : isSpace (fragment.head hne) = false)
      (hlast : isSpace (fragment.getLast hne) = false) :
      Leaves p (before ++ (fragment ++ after))
        [⟨String.ofList fragment, p + byteLength before⟩]

/-- A text from a position on is made up of gaps and tokens in turn, with the skipped input that the
    gaps leave. -/
inductive Tiles : Nat → List Char → List Token → List Skipped → Prop
  | last {p : Nat} {gap : List Char} {ks : List Skipped} (hgap : Leaves p gap ks) :
      Tiles p gap [] ks
  | token {p : Nat} {gap after : List Char} {t : Token} {ts : List Token} {ks ks' : List Skipped}
      (hgap : Leaves p gap ks) (hposition : t.position = p + byteLength gap)
      (h : Tiles (t.position + byteLength t.chars) after ts ks') :
      Tiles p (gap ++ (t.chars ++ after)) (t :: ts) (ks ++ ks')

/-! ## Gaps -/

/-- What is skipped of a gap is what it leaves. -/
theorem leaves_skipped? (p : Nat) (gap : List Char) :
    Leaves p gap (Piece.gap p gap).skipped?.toList := by
  rw [Piece.skipped?]
  by_cases hblank : Text.trim gap = []
  · rw [if_pos hblank]
    exact .nothing (Text.trim_eq_nil.1 hblank)
  · rw [if_neg hblank]
    have hfront : Text.trim gap <+: Text.trimStart gap := List.rdropWhile_prefix isSpace _
    have hsplit : gap.takeWhile isSpace ++
        (Text.trim gap ++ (Text.trimStart gap).rtakeWhile isSpace) = gap :=
      (congrArg _ List.rdropWhile_append_rtakeWhile).trans (Text.trimStart_append gap)
    have hleaves : Leaves p (gap.takeWhile isSpace ++
        (Text.trim gap ++ (Text.trimStart gap).rtakeWhile isSpace)) _ :=
      .fragment (fun c hc => List.mem_takeWhile_imp hc) (fun c hc => List.mem_rtakeWhile_imp hc)
        hblank ?_ ?_
    · rwa [hsplit] at hleaves
    · rw [hfront.head hblank]
      exact List.head_dropWhile_not isSpace _
    · exact Bool.eq_false_iff.2 (List.rdropWhile_last_not isSpace _ hblank)

namespace Piece

/-- Pieces with a stretch in front of which no character begins a token. It joins the gap that they
    begin with, if they begin with one. -/
def joined (p : Nat) : List Char → List Piece → List Piece
  | [], ps => ps
  | front, gap _ s :: ps => gap p (front ++ s) :: ps
  | front, ps => gap p front :: ps

theorem joined_consStray {p q : Nat} {front : List Char} (hq : q = p + byteLength front) (c : Char)
    (ps : List Piece) : joined p front (consStray q c ps) = joined p (front ++ [c]) ps := by
  rcases front with _ | ⟨d, front⟩
  · subst hq
    rcases ps with _ | ⟨_ | _, ps⟩ <;> rfl
  · rcases ps with _ | ⟨_ | _, ps⟩ <;> simp [joined, consStray]

/-- What is skipped of them is what is skipped of the stretch, and then the rest. -/
theorem skipped_joined (p : Nat) (front : List Char) {ps : List Piece}
    (hps : ∀ q s qs, ps ≠ gap q s :: qs) : (joined p front ps).filterMap skipped? =
      (gap p front).skipped?.toList ++ ps.filterMap skipped? := by
  cases front with
  | nil => rfl
  | cons c front =>
    rw [joined.eq_3 p (c :: front) ps nofun hps, List.filterMap_cons]
    cases (gap p (c :: front)).skipped? <;> rfl

end Piece

/-- A run tiles its text, together with the part of a gap that has been passed over before. -/
theorem Scanned.tiles {q : Nat} {s : List Char} {ps : List Piece} (h : Scanned q s ps) {p : Nat}
    {front : List Char} (hq : q = p + byteLength front) :
    Tiles p (front ++ s) (ps.filterMap Piece.token?)
      ((Piece.joined p front ps).filterMap Piece.skipped?) := by
  induction h generalizing p front with
  | done q =>
    rw [Piece.skipped_joined p front (by simp)]
    simp only [List.filterMap_nil, List.append_nil]
    exact .last (leaves_skipped? p front)
  | @token q t after ps hread _ ih =>
    have hposition : t.position = q := (Token.formed_of_read? hread).2.1
    rw [Piece.skipped_joined p front (by simp)]
    refine .token (leaves_skipped? p front) (hposition.trans hq) ?_
    rw [hposition]
    exact @ih _ [] rfl
  | @stray q c s ps _ _ ih =>
    rw [Piece.joined_consStray hq, Scanned.filterMap_consStray, List.append_cons]
    refine ih ?_
    rw [Text.byteLength_append, hq, Nat.add_assoc]
    rfl

namespace Tiles

variable {p : Nat} {s : List Char} {ts : List Token} {ks : List Skipped}

/-- Tokens come one behind the other. -/
theorem pairwise (h : Tiles p s ts ks) : (∀ t ∈ ts, p ≤ t.position) ∧
    ts.Pairwise fun t u => t.position + byteLength t.chars ≤ u.position := by
  induction h with
  | last => exact ⟨List.forall_mem_nil _, .nil⟩
  | @token p gap after t ts ks ks' _ hposition _ ih =>
    obtain ⟨hle, hpairwise⟩ := ih
    refine ⟨List.forall_mem_cons.2 ⟨by omega, fun u hu => ?_⟩, .cons hle hpairwise⟩
    have := hle u hu
    omega

end Tiles

/-- A scan loses nothing. The tokens it finds stand in the input at their positions, which increase,
    and no token reaches into the next. What lies outside of them is white space or leaves one piece
    of skipped input for each gap, in order, so that all of it together makes up the input. -/
theorem scan_tiles (input : String) :
    (scan input).tokens.Pairwise (fun t u =>
      t.position < u.position ∧ t.position + byteLength t.chars ≤ u.position) ∧
    (∀ t ∈ (scan input).tokens, ∃ before after,
      input.toList = before ++ (t.chars ++ after) ∧ t.position = byteLength before) ∧
    Tiles 0 input.toList (scan input).tokens (scan input).skipped := by
  have hscanned : Scanned 0 input.toList (pieces input) := scanFrom_scanned 0 input.toList
  have htiles : Tiles 0 input.toList (scan input).tokens (scan input).skipped :=
    @Scanned.tiles 0 _ _ hscanned 0 [] rfl
  refine ⟨htiles.pairwise.2.imp ?_, fun t ht => ?_, htiles⟩
  · intro t u hle
    have hpos : 0 < byteLength t.chars := Text.byteLength_pos t.chars_ne_nil
    exact ⟨by omega, hle⟩
  · obtain ⟨before, after, hinput, hposition, -⟩ := hscanned.token_at ht
    exact ⟨before, after, hinput, hposition.trans (Nat.zero_add _)⟩

end RowQuery
