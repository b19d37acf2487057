import RowQuery.Proofs.Filter.Ordering
import RowQuery.Proofs.Filter.Parsing
import RowQuery.Proofs.Filter.Shape
import RowQuery.Proofs.Report.Clear
import RowQuery.Proofs.Value.Printing

/-!
# Predicates told apart by their texts

In the text of a predicate the columns stand without quotes, a negation has no brackets, and "AND"
joins conditions and the bounds of a range alike. Columns may be called like any of these words.
The text is unambiguous all the same, if it is read from the left. It begins with a bracket only if
it is that of two predicates that are joined. Else its first word is that of a negation or a column,
and what follows decides between these two: the sign of an operator, or a predicate, which does not
begin with a sign and a literal. A column has one type, so the literals behind its sign can be told
apart.

* `Predicate.Legible`: predicates of words and of literals of the columns' types;
* `Predicate.legible_of_compile`: compiled predicates are legible;
* `Comparison.toldApart_text`: what stands behind a column and a sign tells the operand;
* `Predicate.toldApart_text`: a text cannot begin with the texts of two legible predicates, by
  induction on both of them;
* `compile_text_inj`: so filters that compile to predicates of the same text compile to the same.
-/

namespace RowQuery

open Text (isWord)

variable {schema : Schema} {t : ColumnType} {op : Operator}

/-! ## Legible predicates -/

/-- The type of the literals in an operand on a column of type `t`. A pattern is a text. -/
def Operator.literalType (t : ColumnType) : Operator → ColumnType
  | like => .text
  | _ => t

/-- An operand suits its operator, and each of its values can be read back or is the null. -/
structure Operand.Legible (t : ColumnType) (op : Operator) (o : Operand) : Prop where
  suits : o.Suits t op
  values : ∀ v ∈ o.values, v.Legible (op.literalType t)

/-- A comparison of a column that is a word with a legible operand. -/
structure Comparison.Legible (schema : Schema) (d : Comparison) : Prop where
  column : ∀ c ∈ d.column.toList, isWord c = true
  operand : ∃ t, schema.types.get? d.column = some t ∧ d.operand.Legible t d.operator

/-- A predicate of legible comparisons. -/
def Predicate.Legible (schema : Schema) (p : Predicate) : Prop :=
  ∀ d ∈ p.comparisons, d.Legible schema

namespace Operand

variable {column : Column}

theorem readable_of_readList {s : List Char} {vs : List Value} (ht : t ≠ .float)
    (h : readList column t s = .ok vs) : ∀ v ∈ vs, v.Readable t := by
  rw [readList] at h
  split at h
  · cases h
  · exact forall_mem_of_mapM (fun _ _ => readable_of_readValue ht) h

/-- What is read for an operator is legible. -/
theorem legible_of_read {value : String} {o : Operand} (ht : column.type ≠ .float)
    (h : Operand.read column op value = .ok o) : o.Legible column.type op := by
  refine ⟨suits_of_read h, ?_⟩
  rw [Operand.read] at h
  generalize Literal.stripQuotes value.toList = stripped at h
  obtain ⟨inner, quoted⟩ := stripped
  cases op with
  | is =>
    simp only at h
    split at h
    · cases h
      exact List.forall_mem_singleton.2 (.inl rfl)
    · obtain ⟨v, hv, rfl⟩ := map_eq_ok.1 h
      exact List.forall_mem_singleton.2 (.inr (readable_of_readValue ht hv))
  | like =>
    simp only at h
    split at h
    · obtain ⟨vs, hvs, rfl⟩ := map_eq_ok.1 h
      exact fun v hv => .inr (readable_of_readList (by decide) hvs v hv)
    · cases h
      exact List.forall_mem_singleton.2 (.inr (.text _))
  | isIn =>
    obtain ⟨vs, hvs, rfl⟩ := map_eq_ok.1 h
    exact fun v hv => .inr (readable_of_readList ht hvs v hv)
  | between =>
    obtain ⟨vs, hvs, h⟩ := bind_eq_ok.1 h
    have hread := readable_of_readList ht hvs
    split at h
    · cases h
      exact fun v hv => .inr (hread v hv)
    · cases h
  | _ =>
    obtain ⟨v, hv, rfl⟩ := map_eq_ok.1 h
    exact List.forall_mem_singleton.2 (.inr (readable_of_readValue ht hv))

end Operand

/-! ## Compiled predicates -/

namespace Clause

/-- The fields that clauses name are words. -/
theorem isWord_of_parse {mode : Mode} {filter : String} {cs : List Clause}
    (h : parse mode filter = .ok cs) :
    ∀ c ∈ cs, ∀ f, c.field? = some f → ∀ x ∈ f.toList, isWord x = true := by
  intro c hc f hf
  have htokens := map_eq_of_mapM (fun _ _ hc => (token_of_ofToken hc).1)
    (ofTokens_eq_ok.1 (ofTokens_of_parse h)).1
  obtain ⟨u, hu, hmoved⟩ := List.mem_map.1 (htokens ▸ List.mem_map_of_mem hc)
  have hfield : u.field = f := by
    have hname : c.token.field = f := by rw [token, hf, Option.getD_some]
    rw [← hname, ← hmoved]
    rfl
  exact hfield ▸ (formed_of_scan u hu).field

/-- What holds of the field in force at first and of all that are named holds of each field in
    force. -/
theorem forall_inForce {P : String → Prop} {field : String} {cs : List Clause} (hfield : P field)
    (hcs : ∀ c ∈ cs, ∀ f, c.field? = some f → P f) : ∀ x ∈ inForce field cs, P x.1 := by
  induction cs generalizing field with
  | nil => exact nofun
  | cons c cs ih =>
    obtain ⟨hc, hcs⟩ := List.forall_mem_cons.1 hcs
    have hnext : P (c.field?.getD field) := by
      cases hf : c.field? with
      | none => exact hfield
      | some f => exact hc f hf
    exact List.forall_mem_cons.2 ⟨hnext, ih hnext hcs⟩

end Clause

/-- The column that answers to a field has the field's name and a type. -/
theorem Schema.resolve_eq_some {field : String} {column : Column}
    (h : schema.resolve field = some column) :
    column.name = field ∧ schema.types.get? field = some column.type := by
  obtain ⟨type, htype, rfl⟩ := Option.map_eq_some_iff.1 h
  exact ⟨rfl, htype⟩

namespace Predicate

variable {cs : List Clause} {p q : Predicate}

/-- Operands are read by the types of their columns. -/
theorem legible_operand (hfloat : ∀ name, schema.types.get? name ≠ some .float)
    (h : ofClauses schema.resolve cs = .ok (some p)) :
    ∀ d ∈ p.comparisons,
      ∃ t, schema.types.get? d.column = some t ∧ d.operand.Legible t d.operator := by
  refine ofClauses_induction
    (P := fun p => ∀ d ∈ p.comparisons,
      ∃ t, schema.types.get? d.column = some t ∧ d.operand.Legible t d.operator)
    (fun f c p hp => ?_) (fun k p q hp hq => ?_) h
  · obtain ⟨column, operand, hcolumn, -, hread, rfl⟩ := Clause.predicate_eq_ok.1 hp
    obtain ⟨hname, htype⟩ := Schema.resolve_eq_some hcolumn
    rw [← hname] at htype
    have hlegible := Operand.legible_of_read (fun ht => hfloat _ (ht ▸ htype)) hread
    split <;> exact List.forall_mem_singleton.2 ⟨column.type, htype, hlegible⟩
  · rw [comparisons_join]
    exact List.forall_mem_append.2 ⟨hp, hq⟩

/-- Columns have the names of fields in force. -/
theorem exists_inForce (h : ofClauses schema.resolve cs = .ok (some p)) :
    ∀ d ∈ p.comparisons, ∃ x ∈ Clause.inForce "" cs, x.1 = d.column := by
  intro d hd
  have hcolumn := List.mem_map_of_mem (f := Comparison.column) hd
  rw [Clause.columns_of_makes (comparisons_of_ofClauses h)] at hcolumn
  obtain ⟨x, hx, hresolve⟩ := List.mem_filterMap.1 hcolumn
  obtain ⟨column, hfield, hname⟩ := Option.map_eq_some_iff.1 hresolve
  exact ⟨x, hx, (Schema.resolve_eq_some hfield).1.symm.trans hname⟩

/-- Compiled predicates are legible. -/
theorem legible_of_compile (hfloat : ∀ name, schema.types.get? name ≠ some .float) {mode : Mode}
    {filter : String} (h : compile mode schema.resolve filter = .ok (some p)) :
    p.Legible schema := by
  obtain ⟨cs, hcs, h⟩ := bind_eq_ok.1 h
  refine fun d hd => ⟨?_, legible_operand hfloat h d hd⟩
  obtain ⟨x, hx, hfield⟩ := exists_inForce h d hd
  exact hfield ▸ Clause.forall_inForce (P := fun f => ∀ c ∈ f.toList, isWord c = true) (by simp)
    (Clause.isWord_of_parse hcs) x hx

end Predicate

/-! ## Operands -/

namespace Operand

variable {o o' : Operand} {v w : Value} {vs ws : List Value} {r r' : List Char}

/-- The operand as it stands behind the sign of its operator. -/
def text (op : Operator) : Operand → List Char
  | scalar v => v.literal
  | list vs =>
    (if op = .like then "ANY ".toList else []) ++
      '(' :: joinText ", ".toList (vs.map Value.literal) ++ [')']
  | range low high => low.literal ++ " AND ".toList ++ high.literal

/-- The items of a list behind its first. -/
def furtherItems (vs : List Value) : List Char :=
  vs.flatMap fun v => ", ".toList ++ v.literal

theorem furtherItems_cons_append (v : Value) (vs : List Value) (s : List Char) :
    furtherItems (v :: vs) ++ s = ", ".toList ++ (v.literal ++ (furtherItems vs ++ s)) := by
  simp only [furtherItems, List.flatMap_cons, List.append_assoc]

theorem joinText_literal (v : Value) (vs : List Value) :
    joinText ", ".toList ((v :: vs).map Value.literal) = v.literal ++ furtherItems vs := by
  rw [List.map_cons, joinText_eq_flatMap, List.flatMap_map, furtherItems]

theorem stops_furtherItems (vs : List Value) (r : List Char) :
    Stops (furtherItems vs ++ ')' :: r) := by
  cases vs with
  | nil => exact stops_cons (by decide) r
  | cons v vs =>
    rw [furtherItems_cons_append]
    exact stops_cons (by decide) _

/-- A list ends at the first bracket behind an item. -/
theorem furtherItems_append_inj (hvs : ∀ v ∈ vs, v.Legible t) (hws : ∀ w ∈ ws, w.Legible t)
    (h : furtherItems vs ++ ')' :: r = furtherItems ws ++ ')' :: r') : vs = ws ∧ r = r' := by
  induction vs generalizing ws with
  | nil =>
    rcases ws with _ | ⟨w, ws⟩
    · exact ⟨rfl, (List.cons.inj h).2⟩
    · rw [furtherItems_cons_append] at h
      exact absurd (List.cons.inj h).1 (by decide)
  | cons v vs ih =>
    rw [furtherItems_cons_append] at h
    rcases ws with _ | ⟨w, ws⟩
    · exact absurd (List.cons.inj h).1 (by decide)
    · obtain ⟨hv, hvs'⟩ := List.forall_mem_cons.1 hvs
      obtain ⟨hw, hws'⟩ := List.forall_mem_cons.1 hws
      rw [furtherItems_cons_append] at h
      obtain ⟨rfl, hitems⟩ := Value.toldApart_literal hv hw _ _ (stops_furtherItems vs r)
        (stops_furtherItems ws r') (List.append_cancel_left h)
      obtain ⟨rfl, hbehind⟩ := ih hvs' hws' hitems
      exact ⟨rfl, hbehind⟩

theorem toldApart_scalar (hv : v.Legible t) (hw : w.Legible t) :
    ToldApart (text op) (scalar v) (scalar w) := by
  intro r r' hr hr' h
  obtain ⟨rfl, hbehind⟩ := Value.toldApart_literal hv hw r r' hr hr' h
  exact ⟨rfl, hbehind⟩

theorem toldApart_list (hvs : ∀ x ∈ v :: vs, x.Legible t) (hws : ∀ x ∈ w :: ws, x.Legible t) :
    ToldApart (text op) (list (v :: vs)) (list (w :: ws)) := by
  intro r r' _ _ h
  obtain ⟨hv, hvs'⟩ := List.forall_mem_cons.1 hvs
  obtain ⟨hw, hws'⟩ := List.forall_mem_cons.1 hws
  simp only [text, joinText_literal, List.append_assoc, List.cons_append, List.nil_append,
    List.append_cancel_left_eq, List.cons.injEq, true_and] at h
  obtain ⟨rfl, hitems⟩ := Value.toldApart_literal hv hw _ _ (stops_furtherItems vs r)
    (stops_furtherItems ws r') h
  obtain ⟨rfl, hbehind⟩ := furtherItems_append_inj hvs' hws' hitems
  exact ⟨rfl, hbehind⟩

theorem toldApart_range {low high low' high' : Value} (hlow : low.Legible t)
    (hhigh : high.Legible t) (hlow' : low'.Legible t) (hhigh' : high'.Legible t) :
    ToldApart (text op) (range low high) (range low' high') := by
  intro r r' hr hr' h
  have hand : ∀ s, Stops (" AND ".toList ++ s) := stops_cons (by decide)
  simp only [text, List.append_assoc] at h
  obtain ⟨rfl, hbounds⟩ := Value.toldApart_literal hlow hlow' _ _ (hand _) (hand _) h
  obtain ⟨rfl, hbehind⟩ := Value.toldApart_literal hhigh hhigh' r r' hr hr'
    (List.append_cancel_left hbounds)
  exact ⟨rfl, hbehind⟩

/-- One pattern is quoted, and several are not. -/
theorem toldApart_pattern (s : String) (vs : List Value) :
    ToldApart (text .like) (scalar (.text s)) (list vs) :=
  fun _ _ _ _ h => absurd (List.cons.inj h).1 (by decide)

/-- The form that operands have for an operator. -/
theorem Suits.form (h : o.Suits t op) : match op with
    | .between => ∃ low high, o = range low high
    | .isIn => ∃ v vs, o = list (v :: vs)
    | .like => (∃ s, o = scalar (.text s)) ∨ ∃ v vs, o = list (v :: vs)
    | _ => ∃ v, o = scalar v := by
  cases h with
  | isNull | is => exact ⟨_, rfl⟩
  | order hop _ =>
    simp only [List.mem_cons, List.not_mem_nil, or_false] at hop
    rcases hop with rfl | rfl | rfl | rfl | rfl <;> exact ⟨_, rfl⟩
  | like s => exact .inl ⟨s, rfl⟩
  | @likeAny ss hss =>
    rcases ss with _ | ⟨s, ss⟩
    · exact absurd hss (by decide)
    · exact .inr ⟨.text s, ss.map .text, rfl⟩
  | isIn hne _ =>
    obtain ⟨v, vs, rfl⟩ := List.exists_cons_of_ne_nil hne
    exact ⟨v, vs, rfl⟩
  | between => exact ⟨_, _, rfl⟩

/-- Of two operands on a column for one operator, what is written tells which one it is. -/
theorem toldApart_text (ho : o.Legible t op) (ho' : o'.Legible t op) :
    ToldApart (text op) o o' := by
  obtain ⟨hsuits, hvalues⟩ := ho
  obtain ⟨hsuits', hvalues'⟩ := ho'
  have hform := hsuits.form
  have hform' := hsuits'.form
  cases op with
  | between =>
    obtain ⟨low, high, rfl⟩ := hform
    obtain ⟨low', high', rfl⟩ := hform'
    simp only [values, List.forall_mem_cons] at hvalues hvalues'
    exact toldApart_range hvalues.1 hvalues.2.1 hvalues'.1 hvalues'.2.1
  | isIn =>
    obtain ⟨v, vs, rfl⟩ := hform
    obtain ⟨w, ws, rfl⟩ := hform'
    exact toldApart_list hvalues hvalues'
  | like =>
    rcases hform with ⟨s, rfl⟩ | ⟨v, vs, rfl⟩ <;> rcases hform' with ⟨s', rfl⟩ | ⟨w, ws, rfl⟩
    · exact toldApart_scalar (hvalues _ List.mem_cons_self) (hvalues' _ List.mem_cons_self)
    · exact toldApart_pattern s _
    · exact (toldApart_pattern s' _).symm
    · exact toldApart_list hvalues hvalues'
  | _ =>
    obtain ⟨v, rfl⟩ := hform
    obtain ⟨w, rfl⟩ := hform'
    exact toldApart_scalar (hvalues v List.mem_cons_self) (hvalues' w List.mem_cons_self)

/-- No operand is taken for the sign of an operator. -/
theorem Legible.sign_append_ne (ho : o.Legible t op) (op' : Operator) (x : List Char)
    (hr : Stops r) : op'.sign.toList ++ x ≠ o.text op ++ r := by
  cases o with
  | scalar v => exact (ho.values v List.mem_cons_self).sign_append_ne op' x hr
  | range low high =>
    rw [text, List.append_assoc, List.append_assoc]
    exact (ho.values low List.mem_cons_self).sign_append_ne op' x (stops_cons (by decide) _)
  | list vs =>
    rw [text]
    split <;> exact op'.sign_append_ne (by decide)

end Operand

/-! ## Comparisons -/

namespace Operator

theorem solid_sign (op : Operator) : Solid op.sign.toList := by
  cases op <;> decide

theorem sign_inj {op op' : Operator} (h : op.sign.toList = op'.sign.toList) : op = op' := by
  revert h
  cases op <;> cases op' <;> decide

end Operator

theorem solid_of_isWord {s : List Char} (h : ∀ c ∈ s, isWord c = true) : Solid s := by
  have hseparators : (separators.all fun c => !isWord c) = true := by decide
  intro c hc hmem
  have hword := List.all_eq_true.1 hseparators c hmem
  rw [h c hc] at hword
  exact absurd hword (by decide)

namespace Comparison

variable {c d : Comparison} {r : List Char}

/-- The text of a comparison is a column, a sign and an operand. -/
theorem Legible.text_append (hd : d.Legible schema) (r : List Char) : d.text ++ r =
    d.column.toList ++
      ' ' :: (d.operator.sign.toList ++ ' ' :: (d.operand.text d.operator ++ r)) := by
  obtain ⟨-, t, -, hsuits, -⟩ := hd
  obtain ⟨column, operator, operand⟩ := d
  cases hsuits with
  | order hop _ =>
    simp only [List.mem_cons, List.not_mem_nil, or_false] at hop
    rcases hop with rfl | rfl | rfl | rfl | rfl <;>
      simp [Comparison.text, Comparison.textOr, Operand.text, Operator.sign]
  | _ => simp [Comparison.text, Comparison.textOr, Operand.text, Operator.sign]

theorem Legible.solid_column (hd : d.Legible schema) : Solid d.column.toList :=
  solid_of_isWord hd.column

/-- A column has one type, so comparisons of one column by one operator can be told apart. -/
theorem toldApart_text (hc : c.Legible schema) (hd : d.Legible schema) : ToldApart text c d := by
  intro r r' hr hr' h
  rw [hc.text_append, hd.text_append] at h
  obtain ⟨hcolumn, h⟩ := word_append_inj hc.solid_column hd.solid_column h
  obtain ⟨hsign, h⟩ := word_append_inj c.operator.solid_sign d.operator.solid_sign h
  -- The schema has one type for the column, by which both operands have been read.
  obtain ⟨t, htype, ho⟩ := hc.operand
  obtain ⟨t', htype', ho'⟩ := hd.operand
  obtain ⟨column, operator, operand⟩ := c
  obtain ⟨column', operator', operand'⟩ := d
  obtain rfl : column = column' := String.toList_inj.1 hcolumn
  obtain rfl : operator = operator' := Operator.sign_inj hsign
  obtain rfl : t = t' := Option.some.inj (htype.symm.trans htype')
  obtain ⟨rfl, hbehind⟩ := Operand.toldApart_text ho ho' r r' hr hr' h
  exact ⟨rfl, hbehind⟩

/-- A comparison begins with no bracket. -/
theorem Legible.append_ne_bracket (hd : d.Legible schema) (s : List Char) :
    d.text ++ r ≠ '(' :: s := by
  rw [hd.text_append]
  rcases hcolumn : d.column.toList with _ | ⟨x, column⟩
  · exact fun h => absurd (List.cons.inj h).1 (by decide)
  · intro h
    have hword := hd.column x (hcolumn ▸ List.mem_cons_self)
    rw [(List.cons.inj h).1] at hword
    exact absurd hword (by decide)

end Comparison

/-! ## Predicates -/

/-- The word for a connector in the text of a predicate. -/
def Connector.word : Connector → List Char
  | and => "AND".toList
  | or => "OR".toList

theorem Connector.solid_word (k : Connector) : Solid k.word := by
  cases k <;> decide

theorem Connector.word_inj {k k' : Connector} (h : k.word = k'.word) : k = k' := by
  revert h
  cases k <;> cases k' <;> decide

namespace Predicate

variable {p q l l' r r' : Predicate} {x x' : List Char}

theorem legible_compare {c : Comparison} : (compare c).Legible schema ↔ c.Legible schema :=
  List.forall_mem_singleton

theorem legible_and : (and l r).Legible schema ↔ l.Legible schema ∧ r.Legible schema :=
  List.forall_mem_append

theorem legible_or : (or l r).Legible schema ↔ l.Legible schema ∧ r.Legible schema :=
  List.forall_mem_append

theorem text_not_append (p : Predicate) (x : List Char) :
    (not p).text ++ x = "NOT".toList ++ ' ' :: (p.text ++ x) :=
  rfl

theorem text_join_append (k : Connector) (l r : Predicate) (x : List Char) :
    (k.join l r).text ++ x = '(' :: (l.text ++ ' ' :: (k.word ++ ' ' :: (r.text ++ ')' :: x))) := by
  cases k <;> simp [Connector.join, text, Connector.word]

/-- Two predicates that are joined can be told apart if those that they join can. -/
theorem toldApart_join (k k' : Connector) (hl : ToldApart text l l') (hr : ToldApart text r r') :
    ToldApart text (k.join l r) (k'.join l' r') := by
  intro x x' _ _ h
  rw [text_join_append, text_join_append] at h
  have hblank : ∀ y, Stops (' ' :: y) := stops_cons (by decide)
  have hbracket : ∀ y, Stops (')' :: y) := stops_cons (by decide)
  obtain ⟨rfl, hbehind⟩ := hl _ _ (hblank _) (hblank _) (List.cons.inj h).2
  obtain ⟨hword, hright⟩ := word_append_inj k.solid_word k'.solid_word (List.cons.inj hbehind).2
  obtain ⟨rfl, hclosed⟩ := hr _ _ (hbracket _) (hbracket _) hright
  obtain rfl := Connector.word_inj hword
  exact ⟨rfl, (List.cons.inj hclosed).2⟩

/-- A sign with an operand is not taken for a predicate. -/
theorem Legible.sign_append_ne (hq : q.Legible schema) (op' : Operator) {o : Operand}
    (ho : o.Legible t op) (hx : Stops x) :
    op'.sign.toList ++ ' ' :: (o.text op ++ x) ≠ q.text ++ x' := by
  have hsign := op'.solid_sign
  have hbracket : '(' ∉ Operator.signMarks := by decide
  cases q with
  | compare d =>
    have hd := legible_compare.1 hq
    rw [text, hd.text_append]
    intro h
    -- The sign may be the name of a column; the operand is then no sign of that column.
    obtain ⟨-, h⟩ := word_append_inj hsign hd.solid_column h
    exact ho.sign_append_ne d.operator _ hx h.symm
  | and l r | or l r => exact op'.sign_append_ne hbracket
  | not q =>
    rw [text_not_append]
    intro h
    obtain ⟨hnot, -⟩ := word_append_inj hsign (by decide) h
    revert hnot
    cases op' <;> decide

/-- A comparison is not taken for a negation, even if its column is called like one. -/
theorem compare_append_ne_not {c : Comparison} (hc : c.Legible schema) (hq : q.Legible schema)
    (hx : Stops x) : c.text ++ x ≠ (not q).text ++ x' := by
  rw [hc.text_append, text_not_append]
  intro h
  -- A column of that name leaves its sign to the predicate behind the negation.
  obtain ⟨-, h⟩ := word_append_inj hc.solid_column (by decide) h
  obtain ⟨t, -, ho⟩ := hc.operand
  exact hq.sign_append_ne c.operator ho hx h

/-- Predicates that are joined can be told apart from all others if those that they join can. -/
theorem toldApart_join_text (k : Connector) (hl : ∀ q, q.Legible schema → ToldApart text l q)
    (hr : ∀ q, q.Legible schema → ToldApart text r q) (hq : q.Legible schema) :
    ToldApart text (k.join l r) q := by
  cases q with
  | compare d =>
    intro x x' _ _ h
    rw [text_join_append] at h
    exact absurd h.symm ((legible_compare.1 hq).append_ne_bracket _)
  | and l' r' =>
    obtain ⟨hl', hr'⟩ := legible_and.1 hq
    exact toldApart_join k .and (hl l' hl') (hr r' hr')
  | or l' r' =>
    obtain ⟨hl', hr'⟩ := legible_or.1 hq
    exact toldApart_join k .or (hl l' hl') (hr r' hr')
  | not q =>
    intro x x' _ _ h
    rw [text_join_append] at h
    exact absurd (List.cons.inj h).1 (by decide)

/-- A text cannot begin with the texts of two legible predicates, whatever stands behind them. -/
theorem toldApart_text (hp : p.Legible schema) (hq : q.Legible schema) : ToldApart text p q := by
  -- The second predicate is general, for the parts of the first are set against its parts.
  induction p generalizing q with
  | compare c =>
    have hc := legible_compare.1 hp
    cases q with
    | compare d =>
      intro x x' hx hx' h
      obtain ⟨rfl, hbehind⟩ := Comparison.toldApart_text hc (legible_compare.1 hq) x x' hx hx' h
      exact ⟨rfl, hbehind⟩
    | and | or => exact fun _ _ _ _ h => absurd h (hc.append_ne_bracket _)
    | not q => exact fun _ _ hx _ h => absurd h (compare_append_ne_not hc hq hx)
  | and l r ihl ihr =>
    obtain ⟨hl, hr⟩ := legible_and.1 hp
    exact toldApart_join_text .and (fun _ => ihl hl) (fun _ => ihr hr) hq
  | or l r ihl ihr =>
    obtain ⟨hl, hr⟩ := legible_or.1 hp
    exact toldApart_join_text .or (fun _ => ihl hl) (fun _ => ihr hr) hq
  | not p ih =>
    cases q with
    | compare d =>
      exact fun _ _ _ hx' h => absurd h.symm (compare_append_ne_not (legible_compare.1 hq) hp hx')
    | and | or => exact fun _ _ _ _ h => absurd (List.cons.inj h).1 (by decide)
    | not q =>
      intro x x' hx hx' h
      have hinner : q.Legible schema := hq
      rw [text_not_append, text_not_append] at h
      obtain ⟨rfl, hbehind⟩ := ih hp hinner x x' hx hx'
        (List.cons.inj (List.append_cancel_left h)).2
      exact ⟨rfl, hbehind⟩

end Predicate

/-- On a schema without floats, the text of a predicate that a filter compiles to tells the
    predicate, whatever the filter and the mode that it is read in. -/
theorem compile_text_inj (hfloat : ∀ name, schema.types.get? name ≠ some .float)
    {mode mode' : Mode} {filter filter' : String} {p q : Predicate}
    (hp : Predicate.compile mode schema.resolve filter = .ok (some p))
    (hq : Predicate.compile mode' schema.resolve filter' = .ok (some q))
    (h : p.text = q.text) : p = q :=
  (Predicate.toldApart_text (Predicate.legible_of_compile hfloat hp)
    (Predicate.legible_of_compile hfloat hq) [] [] stops_nil stops_nil (congrArg (· ++ []) h)).1

/-- Columns that are called like the words of a predicate, in two filters of which one is quoted and
    stands between words that are no clauses. -/
theorem compile_text_inj_keywords :
    let schema : Schema := ⟨Named.ofList [("AND", .integer), ("NOT", .text)]⟩
    (∀ name, schema.types.get? name ≠ some .float) ∧
      ∃ p q, Predicate.compile .strict schema.resolve "NOT:~in:AND,it\\'s:AND:between:1,5" =
          .ok (some p) ∧
        Predicate.compile .lenient schema.resolve
          "x NOT:~in:'AND,it\\'s' y :AND:between:\"+1, 05\" z" = .ok (some q) ∧
        p.text = "(NOT NOT IN ('AND', 'it''s') AND AND BETWEEN 1 AND 5)".toList ∧
        q.text = p.text ∧ p = q := by
  intro schema
  have hfloat : ∀ name, schema.types.get? name ≠ some .float := by
    intro name h
    have hnone : schema.types.entries.all (·.2 ≠ .float) = true := by decide
    exact of_decide_eq_true (List.all_eq_true.1 hnone _ (Named.get?_eq_some_iff.1 h)) rfl
  obtain ⟨p, hp⟩ : ∃ p, Predicate.compile .strict schema.resolve
      "NOT:~in:AND,it\\'s:AND:between:1,5" = .ok (some p) := ⟨_, rfl⟩
  obtain ⟨q, hq⟩ : ∃ q, Predicate.compile .lenient schema.resolve
      "x NOT:~in:'AND,it\\'s' y :AND:between:\"+1, 05\" z" = .ok (some q) := ⟨_, rfl⟩
  have htext : p.text = "(NOT NOT IN ('AND', 'it''s') AND AND BETWEEN 1 AND 5)".toList := by
    cases hp
    decide
  have htext' : q.text = p.text := by
    cases hp
    cases hq
    decide
  exact ⟨hfloat, p, q, hp, hq, htext, htext', compile_text_inj hfloat hp hq htext'.symm⟩

end RowQuery
