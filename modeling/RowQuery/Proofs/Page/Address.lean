import RowQuery.Named
import RowQuery.Page.Request

/-!
# Addresses survive being written

An address that is rendered is read back as it was. Names and values of parameters may hold any
characters: nothing that is written for a byte is one of the marks that an address is taken apart
by. The base is text as it stands, and must hold no question mark and no number sign, which that of
an address that was read never does (`Url.Plain`).

* `Form.decoded_encode`: a name or a value;
* `Form.read_write`: parameters, with their order and repetitions;
* `Url.parse_render`, `Url.parse_render_iff`: an address;
* `Url.parse_render_after`: an address that has been read, after changes.

A parameter may occur more than once. Setting it leaves it exactly once, leaving it out leaves it
nowhere, and the other parameters stay as they are, each with all its values and in the old order.

* `Url.filter_setIn`, `Url.filter_erase`: what a change leaves of all others;
* `Url.values_set_self`, `Url.values_set_of_ne`: all values of a parameter after one is set;
* `Url.get?_set_self`, `Url.get?_set_of_ne`: the value of a parameter that counts.
-/

namespace RowQuery

open Text (splitAll splitFirst?)

namespace Text

variable {separator : Char} {s : List Char}

/-- A text splits at the first separator. -/
theorem splitFirst?_append (h : separator ∉ s) (r : List Char) :
    splitFirst? separator (s ++ separator :: r) = some (s, r) := by
  induction s with
  | nil => simp [splitFirst?]
  | cons c s ih =>
    have hc := List.ne_of_not_mem_cons h
    have hs := List.not_mem_of_not_mem_cons h
    rw [List.cons_append, splitFirst?, if_neg (Ne.symm hc), ih hs]
    rfl

theorem splitFirst?_eq_none (h : separator ∉ s) : splitFirst? separator s = none := by
  induction s with
  | nil => rfl
  | cons c s ih =>
    have hc := List.ne_of_not_mem_cons h
    have hs := List.not_mem_of_not_mem_cons h
    rw [splitFirst?, if_neg (Ne.symm hc), ih hs]
    rfl

theorem not_mem_of_splitFirst? {s a b : List Char} (h : splitFirst? separator s = some (a, b)) :
    separator ∉ a ∧ s = a ++ separator :: b := by
  induction s generalizing a with
  | nil => cases h
  | cons c s ih =>
    rw [splitFirst?] at h
    split at h
    · rename_i hc
      cases h
      exact ⟨List.not_mem_nil, congrArg (· :: b) hc⟩
    · rename_i hc
      obtain ⟨⟨a', b'⟩, hs, h⟩ := Option.map_eq_some_iff.1 h
      cases h
      obtain ⟨ha, rfl⟩ := ih hs
      exact ⟨List.not_mem_cons_of_ne_of_not_mem (Ne.symm hc) ha, rfl⟩

theorem not_mem_of_splitFirst?_eq_none (h : splitFirst? separator s = none) : separator ∉ s := by
  induction s with
  | nil => exact List.not_mem_nil
  | cons c s ih =>
    rw [splitFirst?] at h
    split at h
    · cases h
    · rename_i hc
      exact List.not_mem_cons_of_ne_of_not_mem (Ne.symm hc) (ih (Option.map_eq_none_iff.1 h))

theorem splitAll_of_not_mem (h : separator ∉ s) : splitAll separator s = [s] := by
  induction s with
  | nil => rfl
  | cons c s ih =>
    have hc := List.ne_of_not_mem_cons h
    have hs := List.not_mem_of_not_mem_cons h
    rw [splitAll, if_neg (Ne.symm hc), ih hs]

theorem splitAll_append (h : separator ∉ s) (r : List Char) :
    splitAll separator (s ++ separator :: r) = s :: splitAll separator r := by
  induction s with
  | nil => simp [splitAll]
  | cons c s ih =>
    have hc := List.ne_of_not_mem_cons h
    have hs := List.not_mem_of_not_mem_cons h
    rw [List.cons_append, splitAll, if_neg (Ne.symm hc), ih hs]

end Text

namespace Form

/-! ## Names and values -/

theorem bytesOf_lt (c : Char) : ∀ b ∈ Text.bytesOf c, b < 256 := by
  have hc := Text.toNat_lt_or c
  simp only [Text.bytesOf]
  generalize c.toNat = n at hc
  intro b hb
  split at hb
  · simp at hb
    omega
  split at hb
  · simp at hb
    omega
  split at hb
  · simp at hb
    omega
  · simp at hb
    omega

theorem hexValue?_hexDigit : ∀ n < 16, Text.hexValue? (hexDigit n) = some n := by
  decide

theorem hexDigit_ne : ∀ n < 16, hexDigit n ≠ '&' ∧ hexDigit n ≠ '=' ∧ hexDigit n ≠ '#' := by
  decide

theorem lt_of_isPlain {b : Nat} (h : isPlain b = true) : b < 0x80 := by
  simp only [isPlain, Bool.or_eq_true, Bool.and_eq_true, decide_eq_true_eq, beq_iff_eq] at h
  omega

theorem toNat_ofNat {b : Nat} (h : b < 0x80) : (Char.ofNat b).toNat = b := by
  have hvalid : b.isValidChar := .inl (by omega)
  rw [Char.ofNat, dif_pos hvalid]
  rfl

/-- A character that is written for a byte as it is. -/
theorem ofNat_ne {b : Nat} (h : isPlain b = true) {c : Char} (hc : isPlain c.toNat = false) :
    Char.ofNat b ≠ c := by
  rintro rfl
  rw [toNat_ofNat (lt_of_isPlain h), h] at hc
  cases hc

theorem bytesOf_ofNat {b : Nat} (h : b < 0x80) : Text.bytesOf (Char.ofNat b) = [b] := by
  simp only [Text.bytesOf, toNat_ofNat h, if_pos h]

/-- No mark by which an address is taken apart is written for a byte. -/
theorem not_mark_of_mem_encodeByte {b : Nat} (hb : b < 256) {c : Char} (hc : c ∈ encodeByte b) :
    c ≠ '&' ∧ c ≠ '=' ∧ c ≠ '#' := by
  rw [encodeByte] at hc
  split at hc
  · rename_i hplain
    rw [List.mem_singleton] at hc
    rw [hc]
    exact ⟨ofNat_ne hplain rfl, ofNat_ne hplain rfl, ofNat_ne hplain rfl⟩
  split at hc
  · rw [List.mem_singleton] at hc
    rw [hc]
    decide
  · simp only [List.mem_cons, List.not_mem_nil, or_false] at hc
    rcases hc with rfl | rfl | rfl
    · decide
    · exact hexDigit_ne (b / 16) (by omega)
    · exact hexDigit_ne (b % 16) (by omega)

theorem bytes_encodeByte {b : Nat} (hb : b < 256) (s : List Char) :
    bytes (encodeByte b ++ s) = b :: bytes s := by
  rw [encodeByte]
  split
  · rename_i hplain
    have hplus : Char.ofNat b ≠ '+' := ofNat_ne hplain rfl
    have hpercent : Char.ofNat b ≠ '%' := ofNat_ne hplain rfl
    rw [List.singleton_append, bytes.eq_4 _ _ hplus fun _ _ _ hc _ => hpercent hc,
      bytesOf_ofNat (lt_of_isPlain hplain)]
    rfl
  split
  · rename_i hblank
    rw [hblank]
    rfl
  · have hnumber : 16 * (b / 16) + b % 16 = b := by omega
    rw [List.cons_append, List.cons_append, List.singleton_append, bytes,
      hexValue?_hexDigit (b / 16) (by omega), hexValue?_hexDigit (b % 16) (by omega)]
    simp only [hnumber]

theorem bytes_flatMap_encodeByte {bs : List Nat} (hbs : ∀ b ∈ bs, b < 256) :
    bytes (bs.flatMap encodeByte) = bs := by
  induction bs with
  | nil => rfl
  | cons b bs ih =>
    obtain ⟨hb, hbs⟩ := List.forall_mem_cons.1 hbs
    rw [List.flatMap_cons, bytes_encodeByte hb, ih hbs]

theorem utf8_lt (s : List Char) : ∀ b ∈ Text.utf8 s, b < 256 := by
  intro b hb
  obtain ⟨c, -, hc⟩ := List.mem_flatMap.1 hb
  exact bytesOf_lt c b hc

/-- A name or a value is read back. -/
theorem decoded_encode (s : String) : decoded (encode s) = s := by
  rw [decoded, encode, bytes_flatMap_encodeByte (utf8_lt _), Text.decode_utf8,
    String.ofList_toList]

/-- A written name or value holds no mark by which an address is taken apart. -/
theorem not_mark_of_mem_encode {s : String} {c : Char} (h : c ∈ encode s) :
    c ≠ '&' ∧ c ≠ '=' ∧ c ≠ '#' := by
  obtain ⟨b, hb, hc⟩ := List.mem_flatMap.1 h
  exact not_mark_of_mem_encodeByte (utf8_lt _ b hb) hc

/-! ## Parameters -/

theorem readPair_writePair (p : String × String) : readPair (writePair p) = p := by
  have h : '=' ∉ encode p.1 := fun h => (not_mark_of_mem_encode h).2.1 rfl
  rw [readPair, writePair, Text.splitFirst?_append h]
  simp only [decoded_encode]

theorem writePair_ne_nil (p : String × String) : writePair p ≠ [] := by
  simp [writePair]

theorem not_mark_of_mem_writePair {p : String × String} {c : Char} (h : c ∈ writePair p) :
    c ≠ '&' ∧ c ≠ '#' := by
  rcases List.mem_append.1 h with h | h
  · exact ⟨(not_mark_of_mem_encode h).1, (not_mark_of_mem_encode h).2.2⟩
  · rcases List.mem_cons.1 h with rfl | h
    · exact ⟨by decide, by decide⟩
    · exact ⟨(not_mark_of_mem_encode h).1, (not_mark_of_mem_encode h).2.2⟩

/-- Parameters are read back, in order. -/
theorem read_write (ps : List (String × String)) : read (write ps) = ps := by
  have hne : ∀ p, ¬ '&' ∈ writePair p := fun p h => (not_mark_of_mem_writePair h).1 rfl
  -- Empty pieces are dropped, but no pair is written as one.
  have hpair : ∀ (p : String × String) (ss : List (List Char)),
      ((writePair p :: ss).filter (· ≠ [])).map readPair =
        p :: (ss.filter (· ≠ [])).map readPair := by
    intro p ss
    simp [writePair_ne_nil, readPair_writePair]
  induction ps with
  | nil => rfl
  | cons p ps ih =>
    cases ps with
    | nil =>
      rw [write, read, Text.splitAll_of_not_mem (hne p), hpair]
      rfl
    | cons q qs =>
      rw [write, read, Text.splitAll_append (hne p), hpair]
      · exact congrArg (p :: ·) ih
      · nofun

theorem not_mem_write (ps : List (String × String)) : '#' ∉ write ps := by
  induction ps with
  | nil => exact List.not_mem_nil
  | cons p ps ih =>
    have hp : '#' ∉ writePair p := fun h => (not_mark_of_mem_writePair h).2 rfl
    cases ps with
    | nil => exact hp
    | cons q qs =>
      rw [write]
      · simpa [hp] using ih
      · nofun

end Form

/-! ## Addresses -/

namespace Url

/-- An address whose base holds none of the marks behind which something else begins. -/
def Plain (u : Url) : Prop :=
  '?' ∉ u.base.toList ∧ '#' ∉ u.base.toList

theorem takeWhile_of_not_mem {s : List Char} (h : '#' ∉ s) : s.takeWhile (· ≠ '#') = s := by
  have hall : ∀ c ∈ s, decide (c ≠ '#') = true := by
    rintro c hc
    exact decide_eq_true fun heq => h (heq ▸ hc)
  calc s.takeWhile (· ≠ '#') = (s ++ []).takeWhile (· ≠ '#') := by rw [List.append_nil]
    _ = s ++ [].takeWhile (· ≠ '#') := List.takeWhile_append_of_pos hall
    _ = s := List.append_nil s

/-- An address that is read has a plain base. -/
theorem plain_parse (s : String) : (parse s).Plain := by
  -- The fragment is cut off before the text is split at its question mark.
  have haddress : '#' ∉ s.toList.takeWhile (· ≠ '#') := by
    intro h
    have := List.all_eq_true.1 (List.all_takeWhile (l := s.toList) (p := (· ≠ '#'))) _ h
    simp at this
  rw [parse]
  generalize s.toList.takeWhile (· ≠ '#') = address at haddress ⊢
  cases hsplit : splitFirst? '?' address with
  | none =>
    simp only [Plain, String.toList_ofList]
    exact ⟨Text.not_mem_of_splitFirst?_eq_none hsplit, haddress⟩
  | some r =>
    obtain ⟨hbase, rfl⟩ := Text.not_mem_of_splitFirst? hsplit
    simp only [Plain, String.toList_ofList]
    exact ⟨hbase, fun h => haddress (List.mem_append_left _ h)⟩

/-- A plain address is read back. -/
theorem parse_render {u : Url} (hu : u.Plain) : parse u.render = u := by
  obtain ⟨base, parameters⟩ := u
  obtain ⟨hquery, hfragment⟩ := hu
  simp only at hquery hfragment
  cases parameters with
  | nil =>
    simp only [render, parse, takeWhile_of_not_mem hfragment, Text.splitFirst?_eq_none hquery,
      String.ofList_toList]
  | cons p ps =>
    have hall : '#' ∉ base.toList ++ '?' :: Form.write (p :: ps) := by
      simp [hfragment, Form.not_mem_write]
    simp only [render, parse, String.toList_append, String.toList_ofList,
      takeWhile_of_not_mem hall, Text.splitFirst?_append hquery, String.ofList_toList,
      Form.read_write]

theorem Plain.set {u : Url} (hu : u.Plain) (name value : String) : (u.set name value).Plain :=
  hu

theorem Plain.erase {u : Url} (hu : u.Plain) (name : String) : (u.erase name).Plain :=
  hu

/-- An address is read back exactly if it is plain. -/
theorem parse_render_iff (u : Url) : parse u.render = u ↔ u.Plain :=
  ⟨fun h => h ▸ plain_parse u.render, parse_render⟩

/-- A change of an address: a parameter is set or left out. -/
inductive Change
  | set (name value : String)
  | erase (name : String)
deriving DecidableEq, Repr

/-- The address after a change. -/
def change (u : Url) : Change → Url
  | .set name value => u.set name value
  | .erase name => u.erase name

/-- The address after changes, one after another. -/
def after (u : Url) (changes : List Change) : Url :=
  changes.foldl change u

theorem Plain.change {u : Url} (hu : u.Plain) (c : Change) : (u.change c).Plain := by
  cases c with
  | set name value => exact hu.set name value
  | erase name => exact hu.erase name

theorem Plain.after {u : Url} (hu : u.Plain) (changes : List Change) :
    (u.after changes).Plain := by
  induction changes generalizing u with
  | nil => exact hu
  | cons c cs ih => exact ih (hu.change c)

/-- An address that has been read, and changed in any way, is read back. -/
theorem parse_render_after (s : String) (changes : List Change) :
    parse ((parse s).after changes).render = (parse s).after changes :=
  (parse_render_iff _).2 ((plain_parse s).after changes)

/-- An empty base, empty names and values, an escape that is none and a byte that is no text. -/
example : ((parse "?=&a=%4&b&a=%FF#top").after [.set "" "&=#?", .erase "b"]).render =
    "?=%26%3D%23%3F&a=%254&a=%EF%BF%BD" := by
  decide +kernel

/-! ## What a change leaves -/

section Parameters

variable {name other : String} {names : List String}

/-- All values of a parameter, in order. -/
def values (u : Url) (name : String) : List String :=
  (u.parameters.filter (·.1 = name)).map (·.2)

/-- The parameters of other names than these, in order. -/
def others (u : Url) (names : List String) : List (String × String) :=
  u.parameters.filter (·.1 ∉ names)

/-- Leaving out a parameter leaves all others. -/
theorem filter_erase (keep : String → Bool) (hkeep : keep name = false)
    (ps : List (String × String)) :
    (ps.filter (·.1 ≠ name)).filter (fun p => keep p.1) = ps.filter fun p => keep p.1 := by
  rw [List.filter_filter]
  refine List.filter_congr fun p _ => ?_
  by_cases hp : p.1 = name
  · simp [hp, hkeep]
  · simp [hp]

/-- Setting a parameter leaves all others. -/
theorem filter_setIn (keep : String → Bool) (hkeep : keep name = false) (value : String)
    (ps : List (String × String)) :
    (setIn name value ps).filter (fun p => keep p.1) = ps.filter fun p => keep p.1 := by
  induction ps with
  | nil => simp [setIn, hkeep]
  | cons p ps ih =>
    rw [setIn]
    split
    · -- The entry is replaced, and later ones of its name are left out.
      rename_i hp
      rw [List.filter_cons_of_neg (by simp [hkeep]), List.filter_cons_of_neg (by simp [hp, hkeep]),
        filter_erase keep hkeep]
    · rw [List.filter_cons, List.filter_cons, ih]

theorem others_set (hname : name ∈ names) (u : Url) (value : String) :
    (u.set name value).others names = u.others names :=
  filter_setIn (· ∉ names) (by simpa using hname) value u.parameters

theorem others_erase (hname : name ∈ names) (u : Url) :
    (u.erase name).others names = u.others names :=
  filter_erase (· ∉ names) (by simpa using hname) u.parameters

/-- A parameter that is set has the value given and no other. -/
theorem values_set_self (u : Url) (name value : String) :
    (u.set name value).values name = [value] := by
  obtain ⟨base, ps⟩ := u
  simp only [set, values]
  induction ps with
  | nil => simp [setIn]
  | cons p ps ih =>
    rw [setIn]
    split
    · simp [List.filter_filter]
    · rename_i hp
      rw [List.filter_cons_of_neg (by simpa using hp), ih]

/-- Setting a parameter keeps the values of every other one. -/
theorem values_set_of_ne (u : Url) (value : String) (h : other ≠ name) :
    (u.set name value).values other = u.values other :=
  congrArg _ (filter_setIn (· = other) (by simpa using h.symm) value u.parameters)

/-- A parameter that is left out has no value. -/
theorem values_erase_self (u : Url) (name : String) : (u.erase name).values name = [] := by
  simp [values, erase, List.filter_filter]

/-- Leaving out a parameter keeps the values of every other one. -/
theorem values_erase_of_ne (u : Url) (h : other ≠ name) :
    (u.erase name).values other = u.values other :=
  congrArg _ (filter_erase (· = other) (by simpa using h.symm) u.parameters)

/-- The value that counts is the first one. -/
theorem get?_eq_head? (u : Url) (name : String) : u.get? name = (u.values name).head? := by
  obtain ⟨base, ps⟩ := u
  simp only [get?, values]
  induction ps with
  | nil => rfl
  | cons p ps ih =>
    by_cases hp : p.1 = name
    · rw [List.filter_cons_of_pos (by simpa using hp), ← hp]
      exact Named.lookup_cons_self
    · rw [List.filter_cons_of_neg (by simpa using hp), Named.lookup_cons_of_ne (Ne.symm hp), ih]

theorem get?_set_self (u : Url) (name value : String) :
    (u.set name value).get? name = some value := by
  rw [get?_eq_head?, values_set_self]
  rfl

theorem get?_set_of_ne (u : Url) (value : String) (h : other ≠ name) :
    (u.set name value).get? other = u.get? other := by
  rw [get?_eq_head?, get?_eq_head?, values_set_of_ne u value h]

theorem get?_erase_self (u : Url) (name : String) : (u.erase name).get? name = none := by
  rw [get?_eq_head?, values_erase_self]
  rfl

theorem get?_erase_of_ne (u : Url) (h : other ≠ name) :
    (u.erase name).get? other = u.get? other := by
  rw [get?_eq_head?, get?_eq_head?, values_erase_of_ne u h]

end Parameters

end Url

end RowQuery
