import RowQuery.Proofs.Filter.Literals
import RowQuery.Proofs.Filter.Writing

/-!
# Quoted operands

Any text can be asked for: put between quotes with its backslashes and quotes escaped, it comes
through the scanner and the readers of operands as it is. In a list its commas are escaped as well,
and the list comes through as the texts it was made of.

* `Operand.read_quoted_eq`, `Operand.read_quoted_like`, `Operand.read_quoted_isIn`: what quoted
  operands are read as, on a column of any type;
* `compile_quoted`: what they compile to on a column of texts.
-/

namespace RowQuery

open Literal (escape quoted)

namespace Operand

variable {quote : Char}

/-- A quoted text is compared as the value that it stands for. -/
theorem read_quoted_eq (hquote : quote ∈ ['"', '\'']) (column : Column) (s : List Char) :
    Operand.read column .eq (String.ofList (quoted quote (escape [quote] s))) =
      (readValue column column.type s).map scalar := by
  rw [Operand.read, String.toList_ofList, Literal.stripQuotes_quoted hquote]
  simp only [Literal.unescape_escape]

/-- A quoted pattern is a single one, whatever commas it holds. -/
theorem read_quoted_like (hquote : quote ∈ ['"', '\'']) (column : Column) (s : List Char) :
    Operand.read column .like (String.ofList (quoted quote (escape [quote] s))) =
      .ok (scalar (.text (String.ofList s))) := by
  rw [Operand.read, String.toList_ofList, Literal.stripQuotes_quoted hquote]
  simp only [Bool.not_true, Bool.false_and, Bool.false_eq_true, if_false, Literal.unescape_escape]

/-- A quoted list is empty only if it was made of a single empty text; else it is read item by
    item. -/
theorem read_quoted_isIn (hquote : quote ∈ ['"', '\'']) (column : Column) {ss : List (List Char)}
    (hne : ss ≠ []) :
    Operand.read column .isIn
        (String.ofList (quoted quote (joinText [','] (ss.map (escape [quote, ',']))))) =
      if ss = [[]] then .error (.emptyList column.name)
      else (ss.mapM (readValue column column.type)).map list := by
  have hcomma : ',' ∈ [quote, ','] := List.mem_cons_of_mem _ List.mem_cons_self
  rw [Operand.read, String.toList_ofList, Literal.stripQuotes_quoted hquote]
  simp only [readList, Literal.joinText_escape_eq_nil hne,
    Literal.splitList_joinText_escape hcomma hne]
  split <;> rfl

/-- On a column of texts a quoted list is read as its texts. -/
theorem mapM_readValue_text {column : Column} (ss : List String) :
    (ss.map String.toList).mapM (readValue column .text) = .ok (ss.map .text) := by
  induction ss with
  | nil => rfl
  | cons s ss ih =>
    refine mapM_cons_eq_ok.2 ⟨.text s, ss.map .text, ?_, ih, rfl⟩
    rw [readValue, ColumnType.read?, String.ofList_toList]

end Operand

variable {resolve : Resolver} {field : String} {column : Column} {quote : Char}

/-- On a column of texts a quoted operand compiles to the text it was made of, as the value of a
    comparison and as a pattern, and a quoted list to the list of its texts. Only of the list of one
    empty text nothing is left. -/
theorem compile_quoted (hf : IsFieldName field) (hcolumn : resolve field = some column)
    (htext : column.type = .text) (hquote : quote ∈ ['"', '\'']) (mode : Mode) :
    (∀ s : String,
      let literal := String.ofList (quoted quote (escape [quote] s.toList))
      Predicate.compile mode resolve (field ++ ":eq:" ++ literal) =
          .ok (some (.compare ⟨column.name, .eq, .scalar (.text s)⟩)) ∧
        Predicate.compile mode resolve (field ++ ":like:" ++ literal) =
          .ok (some (.compare ⟨column.name, .like, .scalar (.text s)⟩))) ∧
    ∀ ss : List String, ss ≠ [] →
      let items := ss.map fun s => escape [quote, ','] s.toList
      Predicate.compile mode resolve
          (field ++ ":in:" ++ String.ofList (quoted quote (joinText [','] items))) =
        if ss = [""] then .error (.emptyList column.name)
        else .ok (some (.compare ⟨column.name, .isIn, .list (ss.map .text)⟩)) := by
  have heq : ":" ++ Operator.eq.key false ++ ":" = ":eq:" := by decide
  have hlike : ":" ++ Operator.like.key false ++ ":" = ":like:" := by decide
  have hin : ":" ++ Operator.isIn.key false ++ ":" = ":in:" := by decide
  have hvalue := Literal.isValue_quoted hquote
  refine ⟨fun s => ⟨?_, ?_⟩, fun ss hne => ?_⟩
  · rw [Predicate.compile_clause heq hf hcolumn nofun (hvalue _), Operand.read_quoted_eq hquote,
      Operand.readValue, htext, ColumnType.read?, String.ofList_toList]
    rfl
  · rw [Predicate.compile_clause hlike hf hcolumn nofun (hvalue _), Operand.read_quoted_like hquote,
      String.ofList_toList]
    rfl
  · have hitems : ss.map (fun s => escape [quote, ','] s.toList) =
        (ss.map String.toList).map (escape [quote, ',']) := by
      rw [List.map_map]
      rfl
    have hempty : ss.map String.toList = [[]] ↔ ss = [""] := by
      rw [List.map_eq_singleton_iff]
      constructor
      · rintro ⟨s, rfl, hs⟩
        rw [String.toList_eq_nil_iff.1 hs]
      · rintro rfl
        exact ⟨"", rfl, rfl⟩
    simp only [hitems]
    rw [Predicate.compile_clause hin hf hcolumn nofun (Literal.isValue_quoted_joinText hquote _),
      Operand.read_quoted_isIn hquote column (mt List.map_eq_nil_iff.1 hne), htext,
      Operand.mapM_readValue_text]
    simp only [hempty]
    split <;> rfl

/-- Between single quotes: an apostrophe, a backslash, a colon and a line break; a list whose first
    text is empty and whose second holds a comma; and the list of an empty text. -/
theorem compile_quoted_apostrophe :
    let resolve : Resolver := fun field => if field = "é" then some ⟨"name", .text⟩ else none
    Predicate.compile .strict resolve "é:eq:'it\\'s: a\\\\b\n'" =
        .ok (some (.compare ⟨"name", .eq, .scalar (.text "it's: a\\b\n")⟩)) ∧
      Predicate.compile .strict resolve "é:in:',a\\,b'" =
        .ok (some (.compare ⟨"name", .isIn, .list [.text "", .text "a,b"]⟩)) ∧
      Predicate.compile .strict resolve "é:in:''" = .error (.emptyList "name") := by
  intro resolve
  have hf : IsFieldName "é" := by decide
  have hcolumn : resolve "é" = some ⟨"name", .text⟩ := rfl
  obtain ⟨hscalar, hlist⟩ :=
    compile_quoted hf hcolumn rfl (List.mem_cons_of_mem '"' List.mem_cons_self) .strict
  have heq : "é" ++ ":eq:" ++ String.ofList (quoted '\'' (escape ['\''] "it's: a\\b\n".toList)) =
      "é:eq:'it\\'s: a\\\\b\n'" := by
    decide
  have hin : "é" ++ ":in:" ++ String.ofList (quoted '\'' (joinText [','] (["", "a,b"].map fun s =>
      escape ['\'', ','] s.toList))) = "é:in:',a\\,b'" := by
    decide
  have hempty : "é" ++ ":in:" ++ String.ofList (quoted '\'' (joinText [','] ([""].map fun s =>
      escape ['\'', ','] s.toList))) = "é:in:''" := by
    decide
  rw [← heq, ← hin, ← hempty]
  exact ⟨(hscalar _).1, (hlist ["", "a,b"] (by decide)).trans (if_neg (by decide)),
    (hlist [""] (by decide)).trans (if_pos rfl)⟩

end RowQuery
