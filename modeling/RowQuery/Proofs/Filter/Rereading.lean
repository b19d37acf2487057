import RowQuery.Proofs.Filter.Grammar

/-!
# Tokens read back

A token of the grammar that stands in front of a text is read back as it is, with two provisos. What
follows must not extend its value. And a token that continues a field can be taken for the beginning
of another one: in `:eq:lt:1` the first colon is read as a connector, the operator `eq` as a field
and the value `lt` as an operator. This happens if the value is the key of an operator and a colon
and a value follow (`ReadsOn`, `GoesOn`), and in no other case.

* `readAfter?_keyword_isSome`: when an operator is taken for a field;
* `read?_chars_iff`: when a token is read back;
* `takeValue?_congr`: only the character behind a value decides whether it ends there.
-/

namespace RowQuery

open Text (isWord isSpace)

/-- White space is no part of a word. -/
theorem Text.isWord_of_isSpace {c : Char} (h : isSpace c = true) : isWord c = false := by
  have hall : ∀ n ∈ spaceRanges.flatMap fun r => List.range' r.1 (r.2 + 1 - r.1),
      isWord (Char.ofNat n) = false := by
    decide +kernel
  obtain ⟨r, hr, hc⟩ := List.any_eq_true.1 h
  simp only [Bool.and_eq_true, decide_eq_true_eq] at hc
  have := hall c.toNat (List.mem_flatMap.2 ⟨r, hr, List.mem_range'_1.2 ⟨hc.1, by omega⟩⟩)
  rwa [Char.ofNat_toNat] at this

namespace Token

/-! ## Marks and words -/

theorem not_isMark_of_isWord {c : Char} (h : isWord c = true) : isMark c = false := by
  rw [Bool.eq_false_iff]
  intro hmark
  rw [isWord_of_isMark hmark] at h
  cases h

theorem not_isMark_of_isSpace {c : Char} (h : isSpace c = true) : isMark c = false := by
  rw [Bool.eq_false_iff, ne_eq, isMark_iff]
  rintro (rfl | rfl) <;> exact absurd h (by decide)

theorem readAfter?_eq_none {c : Char} (hword : isWord c = false) (hmark : isMark c = false)
    (p : Nat) (k s : List Char) : readAfter? p k (c :: s) = none := by
  simp [readAfter?, hword, hmark]

/-- No token begins with white space. -/
theorem read?_space {c : Char} (h : isSpace c = true) (p : Nat) (s : List Char) :
    read? p (c :: s) = none := by
  have hmark := not_isMark_of_isSpace h
  rw [read?, if_neg (by simp [hmark]), readAfter?_eq_none (Text.isWord_of_isSpace h) hmark]

/-- A token names the word in front of it as its field. -/
theorem field_of_readAfter? {p : Nat} {k s : List Char} {t : Token}
    (h : readAfter? p k s = some t) : t.field = String.ofList (s.takeWhile isWord) := by
  obtain ⟨field, tilde, value, after, mark, op, hfield, hmark, -, -, rfl, rfl⟩ :=
    eq_of_readAfter? h
  rw [List.takeWhile_append_of_pos hfield,
    List.takeWhile_cons_of_neg (by simp [isWord_of_isMark hmark]), List.append_nil]

/-- A token that begins with a mark names the word behind the mark, if it names a field. -/
theorem field_of_mark {p : Nat} {mark : Char} {s : List Char} {t : Token}
    (hmark : isMark mark = true) (h : read? p (mark :: s) = some t) (hf : t.field ≠ "") :
    t.field = String.ofList (s.takeWhile isWord) := by
  rw [read?_mark hmark, Option.or_eq_some_iff] at h
  rcases h with h | ⟨-, h⟩
  · exact field_of_readAfter? h
  · rw [field_of_readAfter? h, List.takeWhile_cons_of_neg (by simp [isWord_of_isMark hmark])] at hf
    exact absurd rfl hf

/-! ## Where a value ends -/

theorem takeBare_of_not_isBare {c : Char} (hc : c ≠ '\\') (h : isBare c = false) (s : List Char) :
    takeBare (c :: s) = [] := by
  rw [takeBare_plain hc, h]
  rfl

/-- A mark ends a bare value. -/
theorem takeBare_mark {c : Char} (h : isMark c = true) (s : List Char) :
    takeBare (c :: s) = [] := by
  rcases isMark_iff.1 h with rfl | rfl
  · exact takeBare_of_not_isBare (by decide) (by decide) s
  · exact takeBare_of_not_isBare (by decide) (by decide) s

/-- A value is read to its end if no longer bare run stands in its place. -/
theorem takeValue?_of_longest {v s : List Char} (hv : IsValue v)
    (h : ∀ more, BareRun (v ++ more) → more <+: s → more = []) : takeValue? (v ++ s) = some v := by
  cases hv with
  | quoted hq hrest => exact takeValue?_quotedRest hq hrest s
  | bare hne hrun =>
    have hlong : BareRun (v ++ takeBare s) := takeBare_append hrun s ▸ bareRun_takeBare (v ++ s)
    have hnil := h _ hlong <| takeBare_prefix s
    rw [takeValue?_bareRun hne hrun, hnil, List.append_nil]

/-- A character that is neither a quote nor an escape begins a value or not by itself. -/
theorem takeValue?_isSome_cons {c : Char} (hc : c ∉ ['"', '\'', '\\']) (s : List Char) :
    (takeValue? (c :: s)).isSome = isBare c := by
  simp only [List.mem_cons, List.not_mem_nil, or_false, not_or] at hc
  rw [takeValue?_bare (by simp [hc.1, hc.2.1]), takeBare_plain hc.2.2]
  cases isBare c <;> rfl

/-- Whether a value ends is decided by the character behind it. -/
theorem takeValue?_congr {v s : List Char} {c : Char} (hv : IsValue v) (hc : c ≠ '\\')
    (h : takeValue? (v ++ c :: s) = some v) (s' : List Char) :
    takeValue? (v ++ c :: s') = some v := by
  cases hv with
  | quoted hq hrest => exact takeValue?_quotedRest hq hrest _
  | bare hne hrun =>
    have hnone : takeBare (c :: s) = [] := by
      rw [takeValue?_bareRun hne hrun] at h
      exact List.append_right_eq_self.1 (Option.some.inj h)
    have hbare : isBare c = false := by
      rw [Bool.eq_false_iff]
      intro hbare
      rw [takeBare_plain hc, if_pos hbare] at hnone
      cases hnone
    rw [takeValue?_bareRun hne hrun, takeBare_of_not_isBare hc hbare, List.append_nil]

/-! ## Operators taken for fields -/

theorem isWord_keyword (op : Operator) : ∀ c ∈ op.keyword.toList, isWord c = true := by
  have hall : op.keyword.toList.all isWord = true := by
    cases op <;> decide
  exact List.all_eq_true.1 hall

theorem key_toList (op : Operator) (negated : Bool) : (op.key negated).toList =
    (if negated then ['~'] else []) ++ op.keyword.toList := by
  cases negated with
  | false => rfl
  | true => rw [Operator.key, if_pos rfl, if_pos rfl, String.toList_append]; rfl

theorem bareRun_of_isBare {s : List Char} (h : ∀ c ∈ s, isBare c = true) : BareRun s := by
  induction s with
  | nil => exact .nil
  | cons c s ih =>
    obtain ⟨hc, hs⟩ := List.forall_mem_cons.1 h
    exact .plain (isBare_iff.1 hc).1 (isBare_iff.1 hc).2 (ih hs)

theorem takeValue?_key (op : Operator) (negated : Bool) (s : List Char) :
    takeValue? ((op.key negated).toList ++ ':' :: s) = some (op.key negated).toList := by
  have hbare : (op.key negated).toList.all isBare = true := by
    cases op <;> cases negated <;> decide
  have hne : (op.key negated).toList ≠ [] := by
    cases op <;> cases negated <;> decide
  rw [takeValue?_bareRun hne (bareRun_of_isBare (List.all_eq_true.1 hbare)),
    takeBare_of_not_isBare (by decide) (by decide), List.append_nil]

/-- Behind a connector, an operator with its colon is read as a field if the key of an operator, a
    colon and a value follow. -/
theorem readAfter?_keyword_isSome {op : Operator} {p : Nat} {k s : List Char} :
    (readAfter? p k (op.keyword.toList ++ ':' :: s)).isSome = true ↔
      ∃ (op' : Operator) (negated : Bool) (r : List Char),
        s = (op'.key negated).toList ++ ':' :: r ∧ (takeValue? r).isSome = true := by
  constructor
  · intro h
    obtain ⟨t, ht⟩ := Option.isSome_iff_exists.1 h
    obtain ⟨field, tilde, value, after, mark, op', hfield, hmark, htilde, hvalue, hs, -⟩ :=
      eq_of_readAfter? ht
    -- Field and operator are the word characters in front on either side.
    have hs := congrArg (List.dropWhile isWord) hs
    rw [List.dropWhile_append_of_pos (isWord_keyword op), List.dropWhile_append_of_pos hfield,
      List.dropWhile_cons_of_neg (by decide),
      List.dropWhile_cons_of_neg (by simp [isWord_of_isMark hmark])] at hs
    obtain ⟨-, rfl⟩ := List.cons.inj hs
    have hsome : (takeValue? (value ++ after)).isSome = true := by rw [hvalue]; rfl
    simp only [List.mem_cons, List.not_mem_nil, or_false] at htilde
    rcases htilde with rfl | rfl
    · exact ⟨op', false, _, by rw [key_toList]; rfl, hsome⟩
    · exact ⟨op', true, _, by rw [key_toList]; rfl, hsome⟩
  · rintro ⟨op', negated, r, rfl, hr⟩
    obtain ⟨value, hvalue⟩ := Option.isSome_iff_exists.1 hr
    obtain ⟨hv, ⟨after, rfl⟩, -⟩ := isValue_of_takeValue? hvalue
    let u : Token := ⟨"", op.keyword, ":", if negated then "~" else "", op'.keyword,
      String.ofList value, 0⟩
    have hu : u.Formed := ⟨by simp [u], isWord_keyword op, by simp [u], by cases negated <;> simp [u],
      ⟨op', rfl⟩, by simpa [u] using hv⟩
    have hbody : op.keyword.toList ++ ':' :: ((op'.key negated).toList ++ ':' :: (value ++ after)) =
        u.body ++ after := by
      cases negated <;> simp [u, body, key_toList]
    rw [hbody]
    exact readAfter?_isSome hu p k after

/-! ## Tokens -/

/-- The token at another position. -/
def moveTo (p : Nat) (t : Token) : Token :=
  { t with position := p }

/-- A token that continues a field and has the key of an operator as its value, so that it is taken
    for the beginning of another token if it goes on like one. -/
def ReadsOn (t : Token) : Prop :=
  t.connector = "" ∧ t.field = "" ∧ t.tilde = "" ∧
    ∃ (op : Operator) (negated : Bool), t.value = op.key negated

/-- A text that begins with a colon and a value. -/
def GoesOn (s : List Char) : Prop :=
  ∃ r, s = ':' :: r ∧ (takeValue? r).isSome = true

/-- In front of its value a token has two characters at least, and neither quotes nor escapes. -/
theorem Formed.exists_lead {t : Token} (ht : t.Formed) :
    ∃ lead, t.chars = lead ++ t.value.toList ∧ 2 ≤ lead.length ∧
      ∀ c ∈ lead, c ∉ ['"', '\'', '\\'] := by
  obtain ⟨mark, hsep, -⟩ := exists_mark ht.separator
  obtain ⟨op, hop⟩ := ht.operator
  -- All parts but the field are one of a few words.
  have hconnector : ∀ k ∈ ["", ":", "|"], k.toList.all (· ∉ ['"', '\'', '\\']) = true := by
    decide
  have hseparator : ∀ k ∈ [":", "|"], k.toList.all (· ∉ ['"', '\'', '\\']) = true := by
    decide
  have htilde : ∀ k ∈ ["", "~"], k.toList.all (· ∉ ['"', '\'', '\\']) = true := by
    decide
  have hoperator : op.keyword.toList.all (· ∉ ['"', '\'', '\\']) = true := by
    cases op <;> decide
  have hmem : ∀ s : List Char, s.all (· ∉ ['"', '\'', '\\']) = true →
      ∀ c ∈ s, c ∉ ['"', '\'', '\\'] :=
    fun s hs c hc => of_decide_eq_true (List.all_eq_true.1 hs c hc)
  have hfield : ∀ c ∈ t.field.toList, c ∉ ['"', '\'', '\\'] := by
    intro c hc hquote
    have hword := Text.isWord_mark c (List.mem_append_right [':', '|', '~'] hquote)
    rw [ht.field c hc] at hword
    cases hword
  refine ⟨t.connector.toList ++ t.field.toList ++ t.separator.toList ++ t.tilde.toList ++
    t.operator.toList ++ [':'], by simp [chars], ?_, ?_⟩
  · have : t.separator.toList.length = 1 := by simp [hsep]
    simp only [List.length_append, List.length_singleton]
    omega
  · intro c hc
    simp only [List.mem_append, List.mem_singleton] at hc
    rcases hc with ((((hc | hc) | hc) | hc) | hc) | rfl
    · exact hmem _ (hconnector _ ht.connector) c hc
    · exact hfield c hc
    · exact hmem _ (hseparator _ ht.separator) c hc
    · exact hmem _ (htilde _ ht.tilde) c hc
    · exact hmem _ hoperator c (hop ▸ hc)
    · decide

/-- A token without a field begins, behind its connector, with its separator. -/
theorem body_of_field {t : Token} (hf : t.field = "") {mark : Char}
    (hsep : t.separator = mark.toString) :
    t.body = mark :: (t.tilde.toList ++ t.operator.toList ++ ':' :: t.value.toList) := by
  simp [body, hf, hsep]

theorem chars_of_connector {t : Token} (h : t.connector = "") : t.chars = t.body := by
  rw [chars_eq, h]
  rfl

/-- What follows the separator of a token without connector and field: it is read, with the
    separator as a connector, only if the token reads on. -/
theorem readAfter?_separator_isSome {t : Token} (ht : t.Formed) (hk : t.connector = "")
    (hf : t.field = "") {p : Nat} {k s : List Char}
    (hv : takeValue? (t.value.toList ++ s) = some t.value.toList) :
    (readAfter? p k (t.tilde.toList ++ t.operator.toList ++ ':' :: t.value.toList ++ s)).isSome =
        true ↔ t.ReadsOn ∧ GoesOn s := by
  obtain ⟨op, hop⟩ := ht.operator
  have htilde := ht.tilde
  simp only [List.mem_cons, List.not_mem_nil, or_false] at htilde
  rcases htilde with h | h
  · rw [h, hop, String.toList_empty, List.nil_append, List.append_assoc, List.cons_append,
      readAfter?_keyword_isSome]
    constructor
    · rintro ⟨op', negated, r, hs, hr⟩
      -- The value ends where the key does, as both are read from the same text.
      have hkey : t.value.toList = (op'.key negated).toList := by
        rw [hs, takeValue?_key] at hv
        exact (Option.some.inj hv).symm
      rw [hkey] at hs
      exact ⟨⟨hk, hf, h, op', negated, String.toList_inj.1 hkey⟩, r, List.append_cancel_left hs, hr⟩
    · rintro ⟨⟨-, -, -, op', negated, hkey⟩, r, rfl, hr⟩
      exact ⟨op', negated, r, by rw [hkey], hr⟩
  · have h' : "~".toList = ['~'] := rfl
    rw [h, h', List.singleton_append, List.cons_append, List.cons_append,
      readAfter?_eq_none (by decide) (by decide)]
    refine iff_of_false nofun fun hon => ?_
    have := hon.1.2.2.1
    rw [h] at this
    exact absurd this (by decide)

section InFront

variable {t : Token} {p : Nat} {s : List Char}

/-- Behind its connector a token whose value ends is read as it is. -/
theorem readAfter?_body_of_value (ht : t.Formed) {k : List Char} (hk : t.connector = String.ofList k)
    (hv : takeValue? (t.value.toList ++ s) = some t.value.toList) :
    readAfter? p k (t.body ++ s) = some (t.moveTo p) := by
  rw [readAfter?_body ht, hv, Option.map_some, String.ofList_toList, ← hk]
  rfl

/-- A token with a connector is read back. -/
theorem read?_of_connector (ht : t.Formed) {c : Char} (hc : isMark c = true)
    (hk : t.connector = String.ofList [c])
    (hv : takeValue? (t.value.toList ++ s) = some t.value.toList) :
    read? p (t.chars ++ s) = some (t.moveTo p) := by
  rw [chars_eq, hk, String.toList_ofList, List.append_assoc, List.singleton_append, read?_mark hc,
    readAfter?_body_of_value ht hk hv]
  rfl

/-- A token that begins with its field is read back. -/
theorem read?_of_field (ht : t.Formed) (hk : t.connector = "") (hf : t.field ≠ "")
    (hv : takeValue? (t.value.toList ++ s) = some t.value.toList) :
    read? p (t.chars ++ s) = some (t.moveTo p) := by
  obtain ⟨c, f, hcf⟩ := List.exists_cons_of_ne_nil (mt String.toList_eq_nil_iff.1 hf)
  have hc : isMark c = false := not_isMark_of_isWord (ht.field c (hcf ▸ List.mem_cons_self))
  have hread := readAfter?_body_of_value (p := p) (k := []) ht hk hv
  obtain ⟨r, hbody⟩ : ∃ r, t.body ++ s = c :: r := ⟨_, by rw [body, hcf]; rfl⟩
  rw [hbody] at hread
  rw [chars_of_connector hk, hbody, read?, if_neg (by simp [hc]), hread]

/-- A token that begins with its separator is read back unless it reads on. -/
theorem read?_of_separator (ht : t.Formed) (hk : t.connector = "") (hf : t.field = "")
    (hv : takeValue? (t.value.toList ++ s) = some t.value.toList) :
    read? p (t.chars ++ s) = some (t.moveTo p) ↔ ¬ (t.ReadsOn ∧ GoesOn s) := by
  obtain ⟨mark, hsep, hmark⟩ := exists_mark ht.separator
  have hread := readAfter?_body_of_value (p := p) (k := []) ht hk hv
  have hbody : t.body ++ s =
      mark :: (t.tilde.toList ++ t.operator.toList ++ ':' :: t.value.toList ++ s) := by
    rw [body_of_field hf hsep, List.cons_append]
  rw [hbody] at hread
  rw [chars_of_connector hk, hbody, read?_mark hmark, hread,
    ← readAfter?_separator_isSome ht hk hf hv]
  cases h : readAfter? p [mark] _ with
  | none => simp
  | some u =>
    -- What is read has a connector, which the token has not.
    have hu : u.connector = String.ofList [mark] := by
      refine (formed_of_readAfter? ?_ h).2.2.1
      rcases isMark_iff.1 hmark with rfl | rfl <;> decide
    refine iff_of_false (fun heq => ?_) (not_not_intro rfl)
    rw [Option.some_or, Option.some.injEq] at heq
    rw [heq] at hu
    exact absurd (hk.symm.trans hu) (by simp)

/-- A token that stands in front of a text, with its value ending there, is read back unless it
    reads on. -/
theorem read?_chars_iff (ht : t.Formed)
    (hv : takeValue? (t.value.toList ++ s) = some t.value.toList) :
    read? p (t.chars ++ s) = some (t.moveTo p) ↔ ¬ (t.ReadsOn ∧ GoesOn s) := by
  have hconnector := ht.connector
  simp only [List.mem_cons, List.not_mem_nil, or_false] at hconnector
  -- A token with a connector or a field does not read on.
  rcases hconnector with hk | hk | hk
  · by_cases hf : t.field = ""
    · exact read?_of_separator ht hk hf hv
    · exact iff_of_true (read?_of_field ht hk hf hv) fun h => hf h.1.2.1
  · refine iff_of_true (read?_of_connector ht (c := ':') rfl hk hv) fun h => ?_
    exact absurd (hk.symm.trans h.1.1) (by decide)
  · refine iff_of_true (read?_of_connector ht (c := '|') rfl hk hv) fun h => ?_
    exact absurd (hk.symm.trans h.1.1) (by decide)

end InFront

/-- A token that is read ends where its value does and does not read on. -/
theorem of_read? {t : Token} {p : Nat} {s : List Char} (h : read? p (t.chars ++ s) = some t) :
    t.Formed ∧ t.moveTo p = t ∧ takeValue? (t.value.toList ++ s) = some t.value.toList ∧
      ¬ (t.ReadsOn ∧ GoesOn s) := by
  obtain ⟨ht, hp, ⟨after, hafter, hlongest⟩, -⟩ := formed_of_read? h
  obtain rfl := List.append_cancel_left hafter
  have hmove : t.moveTo p = t := hp ▸ rfl
  have hv := takeValue?_of_longest ht.value hlongest
  exact ⟨ht, hmove, hv, (read?_chars_iff ht hv).1 (hmove.symm ▸ h)⟩

/-- Where a token stands makes no difference to what it is. -/
theorem read?_moveTo {t : Token} {p : Nat} {s : List Char} (h : read? p (t.chars ++ s) = some t)
    (q : Nat) : read? q (t.chars ++ s) = some (t.moveTo q) := by
  obtain ⟨ht, -, hv, hon⟩ := of_read? h
  exact (read?_chars_iff ht hv).2 hon

end Token

end RowQuery
