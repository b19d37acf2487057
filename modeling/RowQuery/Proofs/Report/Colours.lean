import Mathlib.Data.List.Forall2
import RowQuery.Proofs.Report.Clear

/-!
# Reports without their colours

Taking the colour sequences out of a coloured report gives the report as it is without colours. What
is set in colours is filled up before and cut to its end before, so a sequence never stands where a
width is counted or blanks are cut off. Whatever else is in a report has no escape, so nothing else
is taken out.

* `Report.Shows s t`: without its colours, `s` is `t`, whatever comes after it;
* `Report.shows_paint`: a text with a look shows the text;
* `Report.uncoloured_report`: a report in colours shows the report without colours.
-/

namespace RowQuery

/-! ## What is handed in -/

/-- The texts of a token are clear. -/
structure Token.Clear (t : Token) : Prop where
  connector : Report.Clear t.connector.toList
  field : Report.Clear t.field.toList
  separator : Report.Clear t.separator.toList
  tilde : Report.Clear t.tilde.toList
  operator : Report.Clear t.operator.toList
  value : Report.Clear t.value.toList

/-- The texts of a clause are clear. -/
structure Clause.Clear (c : Clause) : Prop where
  field : ∀ name ∈ c.field?, Report.Clear name.toList
  value : Report.Clear c.value.toList

/-- The text and the bound values of a rendered condition are clear. -/
structure SqlFragment.Clear (f : SqlFragment) : Prop where
  text : Report.Clear f.text.toList
  parameters : ∀ v ∈ f.parameters, v.Clear

/-- What is shown of a page in some columns is clear: the names of the columns, the values in them
    and the addresses of the pages around. -/
structure Page.Clear (p : Page Row) (columns : List String) : Prop where
  names : ∀ c ∈ columns, Report.Clear c.toList
  cells : ∀ r ∈ p.rows, ∀ c ∈ columns, (r.value c).Clear
  prev : ∀ url ∈ p.prev?, Report.Clear url.toList
  next : ∀ url ∈ p.next?, Report.Clear url.toList

namespace Report

variable {s t s' t' : List Char} {ls ms : List (List Char)}

/-! ## Colour sequences -/

/-- What follows the colour sequence at the beginning of a text: an escape and a bracket, numbers
    with semicolons between them, and the letter that ends it. -/
def afterSequence? : List Char → Option (List Char)
  | '\x1b' :: '[' :: s =>
    match s.dropWhile fun c => c.isDigit || c == ';' with
    | 'm' :: rest => some rest
    | _ => none
  | _ => none

theorem length_lt_of_afterSequence? (h : afterSequence? s = some t) : t.length < s.length := by
  unfold afterSequence? at h
  split at h
  · rename_i s
    have hlength : (s.dropWhile fun c => c.isDigit || c == ';').length ≤ s.length :=
      (List.dropWhile_sublist _).length_le
    split at h
    · rename_i hrest
      obtain rfl := Option.some.inj h
      rw [hrest] at hlength
      simp only [List.length_cons] at hlength ⊢
      omega
    · contradiction
  · contradiction

theorem afterSequence?_cons_of_ne {c : Char} (h : c ≠ escape) (s : List Char) :
    afterSequence? (c :: s) = none := by
  unfold afterSequence?
  split
  · rename_i heq
    exact absurd (List.cons.inj heq).1 h
  · rfl

/-- The sequences of the looks are colour sequences. -/
@[simp] theorem afterSequence?_start (style : Style) (s : List Char) :
    afterSequence? (style.start ++ s) = some s := by
  cases style <;> rfl

@[simp] theorem afterSequence?_stop (style : Style) (s : List Char) :
    afterSequence? (style.stop ++ s) = some s := by
  cases style <;> rfl

/-- A text without its colour sequences. -/
def uncoloured : List Char → List Char
  | [] => []
  | c :: s =>
    match _h : afterSequence? (c :: s) with
    | some rest => uncoloured rest
    | none => c :: uncoloured s
termination_by s => s.length
decreasing_by
  · exact length_lt_of_afterSequence? _h
  · exact Nat.lt_succ_self _

theorem uncoloured_of_afterSequence? (h : afterSequence? s = some t) :
    uncoloured s = uncoloured t := by
  cases s with
  | nil => contradiction
  | cons c s =>
    rw [uncoloured]
    split <;> simp_all

theorem uncoloured_cons_of_ne {c : Char} (h : c ≠ escape) (s : List Char) :
    uncoloured (c :: s) = c :: uncoloured s := by
  rw [uncoloured]
  split <;> simp_all [afterSequence?_cons_of_ne]

/-! ## What a text shows -/

/-- Without its colours, the first text is the second, whatever comes after it. -/
def Shows (s t : List Char) : Prop :=
  ∀ rest, uncoloured (s ++ rest) = t ++ uncoloured rest

theorem Shows.uncoloured_eq (h : Shows s t) : uncoloured s = t := by
  simpa [uncoloured] using h []

theorem Shows.append (h : Shows s t) (h' : Shows s' t') : Shows (s ++ s') (t ++ t') := fun rest => by
  rw [List.append_assoc, h, h', List.append_assoc]

theorem Clear.shows (h : Clear s) : Shows s s := fun rest => by
  induction s with
  | nil => rfl
  | cons c s ih =>
    obtain ⟨hc, hs⟩ := clear_cons.1 h
    rw [List.cons_append, uncoloured_cons_of_ne hc, ih hs, List.cons_append]

/-- A text with a look shows the text. -/
theorem shows_paint (h : Clear s) (style : Style) (colour : Bool) :
    Shows (style.paint colour s) s := fun rest => by
  cases colour with
  | false => exact h.shows rest
  | true =>
    calc uncoloured (style.start ++ s ++ style.stop ++ rest)
        = uncoloured (s ++ (style.stop ++ rest)) := by
          simp only [List.append_assoc]
          exact uncoloured_of_afterSequence? (afterSequence?_start style _)
      _ = s ++ uncoloured (style.stop ++ rest) := h.shows _
      _ = s ++ uncoloured rest := by
          rw [uncoloured_of_afterSequence? (afterSequence?_stop style rest)]

/-- A column is filled up to its width before it is set in colours. -/
theorem shows_columns {cells : List (Nat × List Char)} (hcells : ∀ p ∈ cells, Clear p.2)
    (h : Shows s t) : Shows (columns cells s) (columns cells t) := by
  induction cells with
  | nil => exact h
  | cons p cells ih =>
    obtain ⟨hp, hrest⟩ := List.forall_mem_cons.1 hcells
    exact (hp.padRight p.1).shows.append ((show Clear [' '] by decide).shows.append (ih hrest))

theorem shows_unlines (h : List.Forall₂ Shows ls ms) : Shows (unlines ls) (unlines ms) := by
  induction h with
  | nil => exact clear_nil.shows
  | cons hl _ ih => exact (hl.append (show Clear ['\n'] by decide).shows).append ih

theorem shows_same (h : ∀ l ∈ ls, Clear l) : List.Forall₂ Shows ls ls :=
  List.forall₂_same.2 fun l hl => (h l hl).shows

theorem shows_map {α : Type} {xs : List α} {f g : α → List Char} (h : ∀ x ∈ xs, Shows (f x) (g x)) :
    List.Forall₂ Shows (xs.map f) (xs.map g) := by
  rw [List.forall₂_map_left_iff, List.forall₂_map_right_iff, List.forall₂_same]
  exact h

/-! ## Reports -/

theorem shows_tokenLines {tokens : List Token} (h : ∀ t ∈ tokens, t.Clear) (colour : Bool) :
    List.Forall₂ Shows (tokenLines colour tokens) (tokenLines false tokens) := by
  unfold tokenLines
  split
  · exact shows_same (by decide)
  · refine .cons (shows_paint (by decide) _ _) (shows_map fun t ht => shows_columns ?_ ?_)
    · simp [(h t ht).connector, (h t ht).field.truncate, (h t ht).separator, (h t ht).tilde,
        (h t ht).operator]
    · exact (h t ht).value.shows

/-- Input that was passed over is listed, so an escape in it does not matter. -/
theorem shows_skippedLines (skipped : List Skipped) (colour : Bool) :
    List.Forall₂ Shows (skippedLines colour skipped) (skippedLines false skipped) := by
  unfold skippedLines
  split
  · exact .nil
  · refine .cons clear_nil.shows (.cons (shows_paint (by decide) _ _) (shows_map fun g _ => ?_))
    have hposition := (clear_natText g.position).padLeft 5
    exact Clear.shows (by simp [hposition, escape])

theorem shows_scanText {s : Scan} (h : ∀ t ∈ s.tokens, t.Clear) (colour : Bool) :
    Shows (scanText colour s) (scanText false s) :=
  shows_unlines (List.rel_append (shows_tokenLines h colour) (shows_skippedLines s.skipped colour))

/-- The operator is filled up to its width before it is set in red. -/
theorem shows_clauseLine {c : Clause} (h : c.Clear) (n : Nat) (colour : Bool) :
    Shows (clauseLine colour n c) (clauseLine false n c) := by
  obtain ⟨connector?, field?, separator, negated, operator, value⟩ := c
  have hsymbol : ∀ k : Connector, k.symbol ≠ escape := by rintro ⟨⟩ <;> decide
  have hkey := (operator.clear_key negated).padRight 9
  refine shows_columns ?_ (Shows.append ?operator ?value)
  case operator => exact shows_paint hkey _ _
  case value => exact Clear.shows (clear_cons.2 ⟨by decide, h.value.truncate _⟩)
  simp only [List.forall_mem_cons, List.not_mem_nil, false_imp_iff, implies_true, and_true]
  refine ⟨clear_natText n, ?connector, ?field, clear_cons.2 ⟨hsymbol separator, clear_nil⟩⟩
  case connector => cases connector? <;> simp [hsymbol]
  case field =>
    cases field? with
    | none => decide
    | some name => exact (h.field name rfl).truncate _

theorem shows_clausesText {cs : List Clause} (h : ∀ c ∈ cs, c.Clear) (colour : Bool) :
    Shows (clausesText colour cs) (clausesText false cs) := by
  unfold clausesText
  split
  · exact Clear.shows (by decide)
  · refine shows_unlines (.cons (shows_paint (by decide) _ _) (shows_map ?_))
    rintro ⟨c, i⟩ hc
    exact shows_clauseLine (h c (List.fst_mem_of_mem_zipIdx hc)) (i + 1) colour

theorem clear_parameterText {v : Value} (h : v.Clear) : Clear (parameterText v) := by
  unfold parameterText
  split
  · exact h.literal
  · exact h.cell

theorem shows_fragmentLines {f : SqlFragment} (h : f.Clear) (colour : Bool) :
    List.Forall₂ Shows (fragmentLines colour f) (fragmentLines false f) := by
  refine .cons ((shows_paint (by decide) _ _).append ?_) ?_
  · exact Clear.shows (clear_cons.2 ⟨by decide, h.text⟩)
  split
  · exact .nil
  · refine .cons (shows_paint (by decide) _ _) (shows_map ?_)
    rintro ⟨v, i⟩ hv
    have hnumber := (clear_natText (i + 1)).padLeft 3
    have hvalue := clear_parameterText (h.parameters v (List.fst_mem_of_mem_zipIdx hv))
    exact Clear.shows (by simp [hnumber, hvalue, escape])

theorem shows_compiledText {p? : Option Predicate} {f? : Option SqlFragment}
    (hp : ∀ p ∈ p?, p.Clear) (hf : ∀ f ∈ f?, f.Clear) (colour : Bool) :
    Shows (compiledText colour p? f?) (compiledText false p? f?) := by
  cases p? with
  | none => exact (show Clear "Empty filter: every row matches.\n".toList by decide).shows
  | some p =>
    refine shows_unlines (.cons ((shows_paint (by decide) _ _).append ?_) ?_)
    · exact Clear.shows (clear_cons.2 ⟨by decide, (hp p rfl).text⟩)
    · cases f? with
      | none => exact .nil
      | some f => exact shows_fragmentLines (hf f rfl) colour

/-- The heading is cut to its end before it is dimmed. -/
theorem shows_rowLines {columns : List String} {rows : List Row}
    (hnames : ∀ c ∈ columns, Clear c.toList) (hcells : ∀ r ∈ rows, ∀ c ∈ columns, (r.value c).Clear)
    (colour : Bool) :
    List.Forall₂ Shows (rowLines colour columns rows) (rowLines false columns rows) := by
  unfold rowLines
  split
  · exact shows_same (by decide)
  · refine .cons (shows_paint (clear_joinCells (List.forall_mem_map.2 hnames) _) _ _)
      (shows_map fun r hr => Clear.shows (clear_joinCells (List.forall_mem_map.2 fun c hc => ?_) _))
    exact (hcells r hr c hc).cell.truncate _

theorem shows_pageText {columns : List String} {p : Page Row} (h : p.Clear columns)
    (colour : Bool) : Shows (pageText colour columns p) (pageText false columns p) := by
  have hlink : ∀ {label : String} {url? : Option String}, Clear label.toList →
      (∀ url ∈ url?, Clear url.toList) → ∀ l ∈ (url?.map fun url => label.toList ++ url.toList).toList,
        Clear l := by
    intro label url? hlabel hurl
    cases url? with
    | none => simp
    | some url => simp [hlabel, hurl url rfl]
  have hsummary : Clear (Decimal.natText p.rows.length ++ " of ".toList ++ Decimal.natText p.count ++
      " rows".toList) := by
    simp [escape]
  refine shows_unlines (List.rel_append (List.rel_append (List.rel_append ?_ ?_) ?_) ?_)
  · exact shows_rowLines h.names h.cells colour
  · exact .cons clear_nil.shows (.cons (shows_paint hsummary _ _) .nil)
  · exact shows_same (hlink (by decide) h.prev)
  · exact shows_same (hlink (by decide) h.next)

/-- Colours are presentation only. -/
theorem uncoloured_report :
    (∀ s : Scan, (∀ t ∈ s.tokens, t.Clear) → uncoloured (scanText true s) = scanText false s) ∧
    (∀ cs : List Clause, (∀ c ∈ cs, c.Clear) →
      uncoloured (clausesText true cs) = clausesText false cs) ∧
    (∀ (p? : Option Predicate) (f? : Option SqlFragment), (∀ p ∈ p?, p.Clear) → (∀ f ∈ f?, f.Clear) →
      uncoloured (compiledText true p? f?) = compiledText false p? f?) ∧
    (∀ (columns : List String) (p : Page Row), p.Clear columns →
      uncoloured (pageText true columns p) = pageText false columns p) :=
  ⟨fun _ h => (shows_scanText h true).uncoloured_eq,
    fun _ h => (shows_clausesText h true).uncoloured_eq,
    fun _ _ hp hf => (shows_compiledText hp hf true).uncoloured_eq,
    fun _ _ h => (shows_pageText h true).uncoloured_eq⟩

/-- `age:~eq:1` with an escape behind it, the clause and the condition it stands for, and a page of
    a row without a name. -/
theorem uncoloured_report_negated :
    let s : Scan := ⟨[⟨"", "age", ":", "~", "eq", "1", 0⟩], [⟨"\x1b[1m", 9⟩]⟩
    let c : Clause := ⟨none, some "age", .and, true, .eq, "1"⟩
    let p : Predicate := .not (.compare ⟨"age", .eq, .scalar (.int 1)⟩)
    let f : SqlFragment := ⟨"NOT (age = $1)", [.int 1]⟩
    let rows : Page Row := ⟨2, some "/rows?offset=1", none, [Named.ofList [("age", .int 2)]]⟩
    uncoloured (scanText true s) = scanText false s ∧
      uncoloured (clausesText true [c]) = clausesText false [c] ∧
      clausesText true [c] ≠ clausesText false [c] ∧
      uncoloured (compiledText true (some p) (some f)) = compiledText false (some p) (some f) ∧
      uncoloured (pageText true ["name", "age"] rows) = pageText false ["name", "age"] rows := by
  intro s c p f rows
  obtain ⟨hscan, hclauses, hcompiled, hpage⟩ := uncoloured_report
  refine ⟨hscan s ?_, hclauses [c] ?_, by decide, hcompiled (some p) (some f) ?_ ?_,
    hpage ["name", "age"] rows ⟨by decide, ?_, nofun, by decide⟩⟩
  · exact List.forall_mem_singleton.2
      ⟨by decide, by decide, by decide, by decide, by decide, by decide⟩
  · exact List.forall_mem_singleton.2 ⟨by decide, by decide⟩
  · rintro _ ⟨⟩
    exact ⟨by decide, List.forall_mem_singleton.2 trivial⟩
  · rintro _ ⟨⟩
    exact ⟨by decide, List.forall_mem_singleton.2 trivial⟩
  · exact List.forall_mem_singleton.2 <| List.forall_mem_cons.2
      ⟨trivial, List.forall_mem_singleton.2 trivial⟩

end Report

end RowQuery
