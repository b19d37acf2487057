import RowQuery.Filter.Literal
import RowQuery.Filter.Predicate
import RowQuery.Proofs.Filter.Grammar

/-!
# Operands written and read

A text is made an operand by escaping its special characters: backslashes, the quotes it is put
between and, in a list, commas. Three readers meet the escapes in turn, the one that finds the end
of a quoted text, the one that takes its quotes off and the one that takes the escapes out, and what
comes out in the end is the text.

* `unescape_escape`: a text is what its escaped form stands for;
* `splitList_joinText`, `splitList_joinText_escape`: a list is split into the items it was joined
  from;
* `isValue_quoted`, `stripQuotes_quoted`: an escaped text between quotes is a value, and the quotes
  are taken off again;
* `bareRun_joinText`, `stripQuotes_bareRun`: items without quotes are joined to a bare run, which
  has no quotes to take off.
-/

namespace RowQuery

open Text (isSpace)

theorem joinText_cons_cons (separator s t : List Char) (ss : List (List Char)) :
    joinText separator (s :: t :: ss) = s ++ separator ++ joinText separator (t :: ss) :=
  rfl

/-- Behind the first text, each of the others has a separator in front. -/
theorem joinText_eq_flatMap (separator s : List Char) (ss : List (List Char)) :
    joinText separator (s :: ss) = s ++ ss.flatMap (separator ++ ·) := by
  induction ss generalizing s with
  | nil => rw [List.flatMap_nil, List.append_nil, joinText]
  | cons t ss ih =>
    rw [joinText_cons_cons, ih, List.flatMap_cons, List.append_assoc, List.append_assoc]

namespace Literal

/-- The text with a backslash in front of each backslash and each of some other characters. -/
def escape (special : List Char) (s : List Char) : List Char :=
  s.flatMap fun c => if c = '\\' ∨ c ∈ special then ['\\', c] else [c]

/-- The text between quotes. -/
def quoted (quote : Char) (s : List Char) : List Char :=
  quote :: s ++ [quote]

/-- A text in which every comma is escaped, and every escape is complete. -/
inductive Item : List Char → Prop
  | nil : Item []
  | plain {c : Char} {s : List Char} : c ≠ '\\' → c ≠ ',' → Item s → Item (c :: s)
  | escape {c : Char} {s : List Char} : Item s → Item ('\\' :: c :: s)

variable {special : List Char} {quote : Char} {s r : List Char}

theorem escape_cons (special : List Char) (c : Char) (s : List Char) : escape special (c :: s) =
    (if c = '\\' ∨ c ∈ special then ['\\', c] else [c]) ++ escape special s :=
  List.flatMap_cons

/-! ## Escapes -/

theorem unescape_plain {c : Char} (hc : c ≠ '\\') (s : List Char) :
    unescape (c :: s) = c :: unescape s :=
  unescape.eq_4 c s (fun h _ => hc h) fun _ _ h _ => hc h

/-- A text is what its escaped form stands for. -/
theorem unescape_escape (special s : List Char) : unescape (escape special s) = s := by
  induction s with
  | nil => rfl
  | cons c s ih =>
    rw [escape_cons]
    split
    · show c :: unescape (escape special s) = c :: s
      rw [ih]
    · rename_i hc
      rw [List.singleton_append, unescape_plain (fun h => hc (.inl h)), ih]

/-! ## Lists -/

theorem splitList_plain {c : Char} (hc : c ≠ '\\') (s : List Char) : splitList (c :: s) =
    if c = ',' then [] :: splitList s else consItem c (splitList s) :=
  splitList.eq_4 c s (fun h _ => hc h) fun _ _ h _ => hc h

theorem item_escape (h : ',' ∈ special) (s : List Char) : Item (escape special s) := by
  induction s with
  | nil => exact .nil
  | cons c s ih =>
    rw [escape_cons]
    split
    · exact .escape ih
    · rename_i hc
      rw [not_or] at hc
      refine .plain hc.1 ?_ ih
      rintro rfl
      exact hc.2 h

/-- The first item of a list ends at its comma. -/
theorem splitList_append (h : Item s) (r : List Char) :
    splitList (s ++ ',' :: r) = unescape s :: splitList r := by
  induction h with
  | nil => exact splitList_plain (by decide) r
  | plain hc hcomma _ ih =>
    rw [List.cons_append, splitList_plain hc, if_neg hcomma, ih, unescape_plain hc]
    rfl
  | escape _ ih =>
    rw [List.cons_append, List.cons_append, splitList, ih]
    rfl

/-- A text without a comma is the one item of a list. -/
theorem splitList_item (h : Item s) : splitList s = [unescape s] := by
  induction h with
  | nil => rfl
  | plain hc hcomma _ ih =>
    rw [splitList_plain hc, if_neg hcomma, ih, unescape_plain hc]
    rfl
  | escape _ ih =>
    rw [splitList, ih]
    rfl

/-- A list is split into the items it was joined from. -/
theorem splitList_joinText (h : Item s) {ss : List (List Char)} (hss : ∀ t ∈ ss, Item t) :
    splitList (joinText [','] (s :: ss)) = unescape s :: ss.map unescape := by
  induction ss generalizing s with
  | nil => exact splitList_item h
  | cons t ss ih =>
    obtain ⟨ht, hss⟩ := List.forall_mem_cons.1 hss
    rw [joinText_cons_cons, List.append_assoc, List.singleton_append, splitList_append h, ih ht hss,
      List.map_cons]

/-- A list of escaped texts is split into the texts. -/
theorem splitList_joinText_escape (h : ',' ∈ special) {ss : List (List Char)} (hne : ss ≠ []) :
    splitList (joinText [','] (ss.map (escape special))) = ss := by
  obtain ⟨s, ss, rfl⟩ := List.exists_cons_of_ne_nil hne
  have hunescape : unescape ∘ escape special = id := funext (unescape_escape special)
  rw [List.map_cons, splitList_joinText (item_escape h s), unescape_escape, List.map_map,
    hunescape, List.map_id]
  exact List.forall_mem_map.2 fun t _ => item_escape h t

theorem escape_eq_nil : escape special s = [] ↔ s = [] := by
  cases s with
  | nil => exact iff_of_true rfl rfl
  | cons c s =>
    refine iff_of_false ?_ (List.cons_ne_nil c s)
    rw [escape_cons]
    split <;> exact nofun

/-- Nothing is written for the list of an empty text, and something for every other one. -/
theorem joinText_escape_eq_nil {ss : List (List Char)} (hne : ss ≠ []) :
    joinText [','] (ss.map (escape special)) = [] ↔ ss = [[]] := by
  obtain ⟨s, ss, rfl⟩ := List.exists_cons_of_ne_nil hne
  cases ss with
  | nil =>
    rw [List.map_cons, List.map_nil, joinText, escape_eq_nil]
    simp
  | cons t ss =>
    simp [joinText_cons_cons]

/-! ## Quotes -/

open Token (QuotedRest IsValue BareRun)

theorem quotedRest_escape (hquote : quote ∈ special) (hbreak : '\n' ∉ special)
    (hr : QuotedRest quote r) (s : List Char) : QuotedRest quote (escape special s ++ r) := by
  induction s with
  | nil => exact hr
  | cons c s ih =>
    rw [escape_cons, List.append_assoc]
    split
    · rename_i hc
      refine .escape ?_ ih
      rintro rfl
      exact hc.elim (by decide) hbreak
    · rename_i hc
      rw [not_or] at hc
      refine .plain ?_ hc.1 ih
      rintro rfl
      exact hc.2 hquote

/-- Texts may be joined by anything that is neither the quote nor an escape. -/
theorem quotedRest_joinText {c : Char} (hc : c ≠ quote) (hescape : c ≠ '\\')
    (hquote : quote ∈ special) (hbreak : '\n' ∉ special) (ss : List (List Char)) :
    QuotedRest quote (joinText [c] (ss.map (escape special)) ++ [quote]) := by
  induction ss with
  | nil => exact .close
  | cons s ss ih =>
    cases ss with
    | nil => exact quotedRest_escape hquote hbreak .close s
    | cons t ss =>
      rw [List.map_cons, List.map_cons, joinText_cons_cons, List.append_assoc, List.append_assoc]
      exact quotedRest_escape hquote hbreak (.plain hc hescape ih) s

/-- An escaped text between quotes is a value. -/
theorem isValue_quoted (hquote : quote ∈ ['"', '\'']) (s : List Char) :
    IsValue (String.ofList (quoted quote (escape [quote] s))).toList := by
  rw [String.toList_ofList]
  refine .quoted hquote (quotedRest_escape List.mem_cons_self ?_ .close s)
  simp only [List.mem_cons, List.not_mem_nil, or_false] at hquote ⊢
  rcases hquote with rfl | rfl <;> decide

/-- A list of escaped texts between quotes is a value, if their commas are escaped as well. -/
theorem isValue_quoted_joinText (hquote : quote ∈ ['"', '\'']) (ss : List (List Char)) :
    IsValue
      (String.ofList (quoted quote (joinText [','] (ss.map (escape [quote, ',']))))).toList := by
  rw [String.toList_ofList]
  refine .quoted hquote (quotedRest_joinText ?_ (by decide) List.mem_cons_self ?_ ss)
  all_goals
    simp only [List.mem_cons, List.not_mem_nil, or_false] at hquote ⊢
    rcases hquote with rfl | rfl <;> decide

/-- The quotes around a text are taken off. -/
theorem stripQuotes_quoted (hquote : quote ∈ ['"', '\'']) (s : List Char) :
    stripQuotes (quoted quote s) = (s, true) := by
  have hquote : quote = '"' ∨ quote = '\'' := by simpa using hquote
  have hlast : (s ++ [quote]).getLast? = some quote := List.getLast?_concat
  rw [quoted, List.cons_append, stripQuotes, if_pos ⟨hquote, hlast⟩, List.dropLast_concat]

/-! ## Bare runs -/

theorem bareRun_append (hs : BareRun s) (hr : BareRun r) : BareRun (s ++ r) := by
  induction hs with
  | nil => exact hr
  | plain hc hspace _ ih => exact .plain hc hspace ih
  | escape hc _ ih => exact .escape hc ih

/-- Bare runs that are joined by commas make up one. -/
theorem bareRun_joinText {ss : List (List Char)} (h : ∀ s ∈ ss, BareRun s) :
    BareRun (joinText [','] ss) := by
  induction ss with
  | nil => exact .nil
  | cons s ss ih =>
    obtain ⟨hs, hss⟩ := List.forall_mem_cons.1 h
    cases ss with
    | nil => exact hs
    | cons t ss =>
      rw [joinText_cons_cons]
      exact bareRun_append (bareRun_append hs (.plain (by decide) (by decide) .nil)) (ih hss)

/-- A bare run has no quotes to take off. -/
theorem stripQuotes_bareRun (h : BareRun s) : stripQuotes s = (s, false) := by
  cases s with
  | nil => rfl
  | cons c s =>
    have hc : ¬ (c = '"' ∨ c = '\'') := fun hq => Token.not_bareRun_quote (by simpa using hq) s h
    rw [stripQuotes, if_neg fun hq => hc hq.1]

end Literal

end RowQuery
