import RowQuery.Filter.Token

/-!
# The grammar of tokens

What a clause looks like is stated here without saying how one is found: `Token.Formed` asks that
each part of a token is of its kind, and a text is a token of the grammar if it is `Token.chars` of
a formed one. A value is a quoted text (`QuotedRest`, behind its first quote) or a run of characters
that stand for themselves or are escaped (`BareRun`).

The readers are then set beside the grammar.

* `takeQuoted_eq_some_iff`: a quoted text is read if and only if one stands in front, and only up to
  its first closing quote;
* `takeBare_append`: a bare run in front is read to its end and on from there, so that what is read
  is the longest;
* `formed_of_read?`: what is read in front of a text is a token of the grammar, its value cannot be
  extended, and it has a connector if any token in front has one;
* `read?_isSome`: wherever a token of the grammar stands in front of a text, a token is read.
-/

namespace RowQuery

open Text (isWord isSpace)

namespace Token

/-! ## The grammar -/

/-- A quoted text behind its first quote, up to the closing one. An escape covers any character but
    a line break. -/
inductive QuotedRest (quote : Char) : List Char → Prop
  | close : QuotedRest quote [quote]
  | plain {c : Char} {s : List Char} :
    c ≠ quote → c ≠ '\\' → QuotedRest quote s → QuotedRest quote (c :: s)
  | escape {c : Char} {s : List Char} :
    c ≠ '\n' → QuotedRest quote s → QuotedRest quote ('\\' :: c :: s)

/-- A run of characters without quotes. -/
inductive BareRun : List Char → Prop
  | nil : BareRun []
  | plain {c : Char} {s : List Char} :
    c ∉ [':', '|', '\'', '"', '\\'] → isSpace c = false → BareRun s → BareRun (c :: s)
  | escape {c : Char} {s : List Char} : c ≠ '\n' → BareRun s → BareRun ('\\' :: c :: s)

/-- A value: a quoted text, or a bare run that is not empty. -/
inductive IsValue : List Char → Prop
  | quoted {quote : Char} {s : List Char} :
    quote ∈ ['"', '\''] → QuotedRest quote s → IsValue (quote :: s)
  | bare {s : List Char} : s ≠ [] → BareRun s → IsValue s

/-- Every part of the token is of its kind. -/
structure Formed (t : Token) : Prop where
  connector : t.connector ∈ ["", ":", "|"]
  field : ∀ c ∈ t.field.toList, isWord c = true
  separator : t.separator ∈ [":", "|"]
  tilde : t.tilde ∈ ["", "~"]
  operator : ∃ op : Operator, t.operator = op.keyword
  value : IsValue t.value.toList

/-- The token behind its connector. -/
def body (t : Token) : List Char :=
  t.field.toList ++ t.separator.toList ++ t.tilde.toList ++ t.operator.toList ++
    ':' :: t.value.toList

theorem chars_eq (t : Token) : t.chars = t.connector.toList ++ t.body := by
  simp [chars, body]

/-! ## Values -/

theorem takeQuoted_plain {quote c : Char} (hc : c ≠ '\\') (s : List Char) :
    takeQuoted quote (c :: s) =
      if c = quote then some [c] else (takeQuoted quote s).map (c :: ·) := by
  rw [takeQuoted.eq_3 quote c s fun _ _ h _ => hc h]
  simp [hc]

theorem takeQuoted_append {quote : Char} (hq : quote ≠ '\\') {v : List Char}
    (h : QuotedRest quote v) (s : List Char) : takeQuoted quote (v ++ s) = some v := by
  induction h with
  | close => simp [takeQuoted_plain hq]
  | plain hne hc _ ih => simp [takeQuoted_plain hc, hne, ih]
  | escape hc _ ih => simp [takeQuoted, hc, ih]

theorem quotedRest_of_takeQuoted {quote : Char} {s v : List Char}
    (h : takeQuoted quote s = some v) : QuotedRest quote v ∧ v <+: s := by
  fun_induction takeQuoted quote s generalizing v with
  | case1 => cases h
  | case2 => cases h
  | case3 c s hc ih =>
    obtain ⟨w, hw, rfl⟩ := Option.map_eq_some_iff.1 h
    obtain ⟨hrest, hpre⟩ := ih hw
    exact ⟨.escape hc hrest, by simpa using hpre⟩
  | case4 s _ =>
    cases h
    exact ⟨.close, by simp⟩
  | case5 s hne _ => cases h
  | case6 c s _ hne hc ih =>
    obtain ⟨w, hw, rfl⟩ := Option.map_eq_some_iff.1 h
    obtain ⟨hrest, hpre⟩ := ih hw
    exact ⟨.plain hne hc hrest, by simpa using hpre⟩

/-- A quoted text is read if and only if one stands in front. -/
theorem takeQuoted_eq_some_iff {quote : Char} (hq : quote ≠ '\\') {s v : List Char} :
    takeQuoted quote s = some v ↔ QuotedRest quote v ∧ v <+: s := by
  refine ⟨quotedRest_of_takeQuoted, ?_⟩
  rintro ⟨h, r, rfl⟩
  exact takeQuoted_append hq h r

theorem isBare_iff {c : Char} :
    isBare c = true ↔ c ∉ [':', '|', '\'', '"', '\\'] ∧ isSpace c = false := by
  simp [isBare, and_assoc]

theorem takeBare_plain {c : Char} (hc : c ≠ '\\') (s : List Char) :
    takeBare (c :: s) = if isBare c then c :: takeBare s else [] :=
  takeBare.eq_3 c s fun _ _ h _ => hc h

theorem bareRun_takeBare (s : List Char) : BareRun (takeBare s) := by
  fun_induction takeBare s with
  | case1 => exact .nil
  | case2 => exact .nil
  | case3 c s hc ih => exact .escape hc ih
  | case4 c s _ hc ih => exact .plain (isBare_iff.1 hc).1 (isBare_iff.1 hc).2 ih
  | case5 => exact .nil

theorem takeBare_prefix (s : List Char) : takeBare s <+: s := by
  fun_induction takeBare s with
  | case1 => exact List.prefix_rfl
  | case2 => exact List.nil_prefix
  | case3 c s _ ih => simpa using ih
  | case4 c s _ _ ih => simpa using ih
  | case5 => exact List.nil_prefix

/-- A bare run in front is read to its end, and what is read goes on from there. -/
theorem takeBare_append {v : List Char} (h : BareRun v) (s : List Char) :
    takeBare (v ++ s) = v ++ takeBare s := by
  induction h with
  | nil => rfl
  | @plain c v hc hs _ ih =>
    have hne : c ≠ '\\' := fun h => hc (by simp [h])
    simp [takeBare_plain hne, isBare_iff.2 ⟨hc, hs⟩, ih]
  | escape hc _ ih => simp [takeBare, hc, ih]

theorem takeValue?_bare {c : Char} (hc : c ∉ ['"', '\'']) (s : List Char) :
    takeValue? (c :: s) = match takeBare (c :: s) with
      | [] => none
      | v => some v := by
  simp only [List.mem_cons, List.not_mem_nil, or_false, not_or] at hc
  exact takeValue?.eq_3 (c :: s) (fun _ h => hc.1 (List.cons.inj h).1)
    (fun _ h => hc.2 (List.cons.inj h).1)

theorem takeValue?_quoted {quote : Char} (hq : quote ∈ ['"', '\'']) (s : List Char) :
    takeValue? (quote :: s) = (takeQuoted quote s).map (quote :: ·) := by
  simp only [List.mem_cons, List.not_mem_nil, or_false] at hq
  rcases hq with rfl | rfl <;> rfl

theorem not_bareRun_quote {quote : Char} (hq : quote ∈ ['"', '\'']) (s : List Char) :
    ¬ BareRun (quote :: s) := by
  intro h
  cases h with
  | plain hc _ _ =>
    simp only [List.mem_cons, List.not_mem_nil, or_false] at hq
    rcases hq with rfl | rfl <;> simp at hc
  | escape => simp at hq

/-- What is read as a value is one, and no longer bare run stands in its place. -/
theorem isValue_of_takeValue? {s v : List Char} (h : takeValue? s = some v) :
    IsValue v ∧ v <+: s ∧ ∀ more, BareRun (v ++ more) → v ++ more <+: s → more = [] := by
  cases s with
  | nil => cases h
  | cons c s =>
    by_cases hc : c ∈ ['"', '\'']
    · rw [takeValue?_quoted hc] at h
      obtain ⟨w, hw, rfl⟩ := Option.map_eq_some_iff.1 h
      obtain ⟨hrest, hpre⟩ := quotedRest_of_takeQuoted hw
      refine ⟨.quoted hc hrest, by simpa using hpre, fun more hrun _ => ?_⟩
      exact absurd hrun (not_bareRun_quote hc _)
    · rw [takeValue?_bare hc] at h
      split at h
      · cases h
      · rename_i hne
        cases h
        refine ⟨.bare hne (bareRun_takeBare _), takeBare_prefix _, ?_⟩
        rintro more hrun ⟨r, hr⟩
        -- The longer run is read to its end, so the value is at least as long.
        have hlong := takeBare_append hrun r
        rw [hr] at hlong
        have := congrArg List.length hlong
        simp only [List.length_append] at this
        exact List.eq_nil_of_length_eq_zero (by omega)

/-- A quoted text in front is the value, whatever follows. -/
theorem takeValue?_quotedRest {quote : Char} (hq : quote ∈ ['"', '\'']) {v : List Char}
    (h : QuotedRest quote v) (s : List Char) :
    takeValue? (quote :: v ++ s) = some (quote :: v) := by
  have hne : quote ≠ '\\' := fun h => by simp [h] at hq
  rw [List.cons_append, takeValue?_quoted hq, takeQuoted_append hne h]
  rfl

/-- A bare run in front is the beginning of the value. -/
theorem takeValue?_bareRun {v : List Char} (hne : v ≠ []) (h : BareRun v) (s : List Char) :
    takeValue? (v ++ s) = some (v ++ takeBare s) := by
  obtain ⟨c, w, rfl⟩ := List.exists_cons_of_ne_nil hne
  have hc : c ∉ ['"', '\''] := fun hq => not_bareRun_quote hq w h
  have htake := takeBare_append h s
  rw [List.cons_append] at htake ⊢
  rw [takeValue?_bare hc, htake]
  rfl

theorem takeValue?_isSome {v : List Char} (h : IsValue v) (s : List Char) :
    (takeValue? (v ++ s)).isSome = true := by
  cases h with
  | quoted hq hrest => rw [takeValue?_quotedRest hq hrest, Option.isSome_some]
  | bare hne hrun => rw [takeValue?_bareRun hne hrun, Option.isSome_some]

/-- A value is read to its end if what follows cannot extend it. -/
theorem takeValue?_append {v : List Char} (h : IsValue v) {s : List Char} (hs : takeBare s = []) :
    takeValue? (v ++ s) = some v := by
  cases h with
  | quoted hq hrest => exact takeValue?_quotedRest hq hrest s
  | bare hne hrun => rw [takeValue?_bareRun hne hrun, hs, List.append_nil]

/-! ## Operators -/

theorem dropWord?_eq_some_iff {w s r : List Char} : dropWord? w s = some r ↔ s = w ++ r := by
  fun_induction dropWord? w s with
  | case1 s => simp [eq_comm]
  | case2 => simp
  | case3 w ws s ih => simp [ih]
  | case4 w ws c s hne => simp [Ne.symm hne]

theorem eq_of_takeOperator? {s r : List Char} {op : Operator}
    (h : takeOperator? s = some (op, r)) : s = op.keyword.toList ++ ':' :: r := by
  obtain ⟨op', _, h⟩ := List.exists_of_findSome?_eq_some h
  obtain ⟨r', hr, h⟩ := Option.map_eq_some_iff.1 h
  cases h
  simpa using dropWord?_eq_some_iff.1 hr

/-- No operator with its colon begins with another, so that their order does not count. -/
theorem takeOperator?_keyword (op : Operator) (r : List Char) :
    takeOperator? (op.keyword.toList ++ ':' :: r) = some (op, r) := by
  cases op <;> rfl

/-! ## Clauses -/

/-- What is read behind a connector: a field, a mark, perhaps a tilde, an operator and a value,
    which make up the front of the text. -/
theorem eq_of_readAfter? {p : Nat} {k s : List Char} {t : Token} (h : readAfter? p k s = some t) :
    ∃ (field tilde value after : List Char) (mark : Char) (op : Operator),
      (∀ c ∈ field, isWord c = true) ∧ isMark mark = true ∧ tilde ∈ [[], ['~']] ∧
        takeValue? (value ++ after) = some value ∧
        s = field ++ mark :: (tilde ++ (op.keyword.toList ++ ':' :: (value ++ after))) ∧
        t = ⟨.ofList k, .ofList field, mark.toString, .ofList tilde, op.keyword, .ofList value,
          p⟩ := by
  have hs := List.takeWhile_append_dropWhile (p := isWord) (l := s)
  have hfield : ∀ c ∈ s.takeWhile isWord, isWord c = true :=
    List.all_eq_true.1 List.all_takeWhile
  -- A field is read greedily; the mark behind it is no word character.
  unfold readAfter? at h
  generalize s.takeWhile isWord = field at *
  split at h
  · rename_i mark r hr
    rw [hr] at hs
    split at h
    · rename_i hmark
      obtain ⟨tilde, r', htilde, rfl, hrest⟩ : ∃ tilde r', tilde ∈ [[], ['~']] ∧ r = tilde ++ r' ∧
          (do
            let taken ← takeOperator? r'
            let value ← takeValue? taken.2
            return (⟨.ofList k, .ofList field, mark.toString, .ofList tilde, taken.1.keyword,
              .ofList value, p⟩ : Token)) = some t := by
        dsimp only at h
        split at h
        · exact ⟨['~'], _, by simp, rfl, h⟩
        · exact ⟨[], _, by simp, rfl, h⟩
      clear h
      obtain ⟨⟨op, r''⟩, hop, hrest⟩ := Option.bind_eq_some_iff.1 hrest
      obtain ⟨value, hvalue, ht⟩ := Option.bind_eq_some_iff.1 hrest
      obtain ⟨after, rfl⟩ := (isValue_of_takeValue? hvalue).2.1
      cases ht
      refine ⟨field, tilde, value, after, mark, op, hfield, hmark, htilde, hvalue, ?_, rfl⟩
      rw [← eq_of_takeOperator? hop, hs]
    · cases h
  · cases h

theorem isMark_iff {c : Char} : isMark c = true ↔ c = ':' ∨ c = '|' := by
  simp [isMark]

theorem isWord_of_isMark {c : Char} (h : isMark c = true) : isWord c = false :=
  Text.isWord_mark c (by rcases isMark_iff.1 h with rfl | rfl <;> simp)

theorem exists_mark {s : String} (h : s ∈ [":", "|"]) :
    ∃ mark : Char, s = mark.toString ∧ isMark mark = true := by
  simp only [List.mem_cons, List.not_mem_nil, or_false] at h
  rcases h with rfl | rfl
  · exact ⟨':', rfl, rfl⟩
  · exact ⟨'|', rfl, rfl⟩

/-- Behind a connector, the body of a token is read as it is written. Only its value may be another,
    if what follows extends it. -/
theorem readAfter?_body {u : Token} (hu : u.Formed) (p : Nat) (k s : List Char) :
    readAfter? p k (u.body ++ s) = (takeValue? (u.value.toList ++ s)).map fun value =>
      { u with connector := .ofList k, value := .ofList value, position := p } := by
  obtain ⟨connector, field, separator, tilde, operator, value, position⟩ := u
  obtain ⟨-, hfield, hseparator, htilde, ⟨op, rfl⟩, -⟩ := hu
  obtain ⟨mark, rfl, hmark⟩ := exists_mark hseparator
  simp only at hfield
  have htake : ∀ r, (field.toList ++ mark :: r).takeWhile isWord = field.toList := by
    intro r
    rw [List.takeWhile_append_of_pos hfield]
    simp [isWord_of_isMark hmark]
  have hdrop : ∀ r, (field.toList ++ mark :: r).dropWhile isWord = mark :: r := by
    intro r
    rw [List.dropWhile_append_of_pos hfield]
    simp [isWord_of_isMark hmark]
  simp only [List.mem_cons, List.not_mem_nil, or_false] at htilde
  rw [readAfter?]
  rcases htilde with rfl | rfl
  · -- The operator stands in front, and no operator begins with a tilde.
    have hnot : ∀ r, op.keyword.toList ++ ':' :: (value.toList ++ s) ≠ '~' :: r := by
      intro r
      cases op <;> simp [Operator.keyword]
    cases hv : takeValue? (value.toList ++ s) <;>
      simp [body, htake, hdrop, hmark, takeOperator?_keyword, hv]
  · cases hv : takeValue? (value.toList ++ s) <;>
      simp [body, htake, hdrop, hmark, takeOperator?_keyword, hv]

/-- A text that begins with the body of a token is read. -/
theorem readAfter?_isSome {u : Token} (hu : u.Formed) (p : Nat) (k s : List Char) :
    (readAfter? p k (u.body ++ s)).isSome = true := by
  rw [readAfter?_body hu, Option.isSome_map, takeValue?_isSome hu.value]

theorem read?_mark {c : Char} (hc : isMark c = true) (p : Nat) (s : List Char) :
    read? p (c :: s) = (readAfter? p [c] s).or (readAfter? p [] (c :: s)) := by
  rw [read?, if_pos hc]
  cases readAfter? p [c] s <;> rfl

theorem read?_isSome_of_readAfter? {p : Nat} {s : List Char}
    (h : (readAfter? p [] s).isSome = true) : (read? p s).isSome = true := by
  cases s with
  | nil => cases h
  | cons c s =>
    by_cases hc : isMark c = true
    · rw [read?_mark hc, Option.isSome_or, h, Bool.or_true]
    · rw [read?, if_neg hc, h]

/-- Wherever a token of the grammar stands in front of a text, a token is read. -/
theorem read?_isSome {u : Token} (hu : u.Formed) (p : Nat) (s : List Char) :
    (read? p (u.chars ++ s)).isSome = true := by
  have hk := hu.connector
  simp only [List.mem_cons, List.not_mem_nil, or_false] at hk
  have hmarked : ∀ c, isMark c = true → (read? p (c :: (u.body ++ s))).isSome = true := by
    intro c hc
    rw [read?_mark hc, Option.isSome_or, readAfter?_isSome hu, Bool.true_or]
  rw [chars_eq]
  rcases hk with h | h | h <;> rw [h]
  · exact read?_isSome_of_readAfter? (readAfter?_isSome hu p [] s)
  · exact hmarked ':' rfl
  · exact hmarked '|' rfl

/-- What is read behind a connector is a token of the grammar, and a longer bare value does not
    stand in its place. -/
theorem formed_of_readAfter? {p : Nat} {k s : List Char} {t : Token}
    (hk : String.ofList k ∈ ["", ":", "|"]) (h : readAfter? p k s = some t) :
    t.Formed ∧ t.position = p ∧ t.connector = String.ofList k ∧ ∃ after, s = t.body ++ after ∧
      ∀ more, BareRun (t.value.toList ++ more) → more <+: after → more = [] := by
  obtain ⟨field, tilde, value, after, mark, op, hfield, hmark, htilde, hvalue, rfl, rfl⟩ :=
    eq_of_readAfter? h
  obtain ⟨hvalue, -, hlongest⟩ := isValue_of_takeValue? hvalue
  refine ⟨⟨hk, by simpa using hfield, ?_, ?_, ⟨op, rfl⟩, by simpa using hvalue⟩, rfl, rfl, after,
    by simp [body], ?_⟩
  · rcases isMark_iff.1 hmark with rfl | rfl
    · exact .head _
    · exact .tail _ (.head _)
  · simp only [List.mem_cons, List.not_mem_nil, or_false] at htilde
    rcases htilde with rfl | rfl
    · exact .head _
    · exact .tail _ (.head _)
  · rintro more hrun ⟨r, rfl⟩
    exact hlongest more (by simpa using hrun) ⟨r, by simp⟩

/-- The mark of a connector in front of a token is read as one. -/
theorem readAfter?_mark_isSome {u : Token} (hu : u.Formed) (hk : u.connector ≠ "") {s : List Char}
    (hs : u.chars <+: s) (p : Nat) :
    ∃ c r, s = c :: r ∧ isMark c = true ∧ (readAfter? p [c] r).isSome = true := by
  obtain ⟨r, rfl⟩ := hs
  have hmem := hu.connector
  simp only [List.mem_cons, List.not_mem_nil, or_false, hk, false_or] at hmem
  rw [chars_eq]
  rcases hmem with h | h <;> rw [h]
  · exact ⟨':', _, rfl, rfl, readAfter?_isSome hu p _ r⟩
  · exact ⟨'|', _, rfl, rfl, readAfter?_isSome hu p _ r⟩

/-- What is read in front of a text is a token of the grammar. Its value cannot be extended, and it
    has a connector if any token in front has one. -/
theorem formed_of_read? {p : Nat} {s : List Char} {t : Token} (h : read? p s = some t) :
    t.Formed ∧ t.position = p ∧ (∃ after, s = t.chars ++ after ∧
      ∀ more, BareRun (t.value.toList ++ more) → more <+: after → more = []) ∧
      (t.connector = "" → ∀ u : Token, u.Formed → u.connector ≠ "" → ¬ u.chars <+: s) := by
  cases s with
  | nil => cases h
  | cons c s =>
    -- Without a connector only if none can be read, or with the mark in front as the connector.
    obtain ⟨h, hnone⟩ | ⟨hc, h⟩ : (readAfter? p [] (c :: s) = some t ∧
        (isMark c = true → readAfter? p [c] s = none)) ∨
        (isMark c = true ∧ readAfter? p [c] s = some t) := by
      by_cases hc : isMark c = true
      · rw [read?_mark hc, Option.or_eq_some_iff] at h
        exact h.elim (fun h => .inr ⟨hc, h⟩) fun h => .inl ⟨h.2, fun _ => h.1⟩
      · rw [read?, if_neg hc] at h
        exact .inl ⟨h, fun hc' => absurd hc' hc⟩
    · obtain ⟨hf, hp, hk, after, hs, hlongest⟩ := formed_of_readAfter? (by simp) h
      refine ⟨hf, hp, ⟨after, by rw [hs, chars_eq, hk]; rfl, hlongest⟩, fun _ u hu hne hpre => ?_⟩
      obtain ⟨d, r, hr, hd, hread⟩ := readAfter?_mark_isSome hu hne hpre p
      cases hr
      rw [hnone hd] at hread
      cases hread
    · obtain ⟨hf, hp, hk, after, hs, hlongest⟩ :=
        formed_of_readAfter? (by rcases isMark_iff.1 hc with rfl | rfl <;> decide) h
      refine ⟨hf, hp, ⟨after, by rw [chars_eq, hk, hs]; simp, hlongest⟩, fun hnil => ?_⟩
      rw [hk] at hnil
      simp at hnil

end Token

end RowQuery
