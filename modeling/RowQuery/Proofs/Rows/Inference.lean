import Mathlib.Control.Monad.Basic
import RowQuery.Page.Table
import RowQuery.Proofs.Calendar.Trimming
import RowQuery.Proofs.Result
import RowQuery.Proofs.Rows.Loading

/-!
# Schemas suggested by data

The schema that data suggest gives a column the type of the first value of its name that suggests
one. Data whose values agree on the types are then loaded under their own schema, with one
exception: an integer beyond the greatest signed number of 64 bits suggests a column of integers,
which cannot hold it.

* `ColumnType.isSome_ofJson?_iff`: which values suit the type that they suggest;
* `Schema.get?_infer`: the type of a column;
* `Schema.isSome_cell?_iff`: which cells of agreeing data suit their columns;
* `inferred_schema_loads`: which agreeing data are loaded, and why others are not.
-/

namespace RowQuery

/-! ## Types of values -/

/-- A value suits the type that it suggests, unless it is an integer that fits no machine word. -/
theorem ColumnType.isSome_ofJson?_iff {j : Json} {t : ColumnType} (h : infer? j = some t) :
    (t.ofJson? j).isSome = true ↔ ∀ i, j = .int i → Decimal.isInt64 i = true := by
  cases j with
  | null => cases h
  | array js => cases h
  | object ms => cases h
  | bool b =>
    cases h
    exact iff_of_true rfl nofun
  | float x =>
    cases h
    exact iff_of_true rfl nofun
  | int i =>
    cases h
    simp [ofJson?]
  | string s =>
    refine iff_of_true ?_ nofun
    rw [infer?] at h
    split at h
    · rename_i hdate
      cases h
      obtain ⟨d, hd⟩ := Option.isSome_iff_exists.1 hdate
      show ((Calendar.readDate? (Text.trim s.toList)).map Value.date).isSome = true
      rw [Calendar.readDate?_trim hd]
      rfl
    split at h
    · rename_i htime
      cases h
      show ((Calendar.readDateTime? (Text.trim s.toList)).map Value.dateTime).isSome = true
      rw [Option.isSome_map]
      exact Calendar.isSome_readDateTime?_trim htime
    · cases h
      rfl

namespace Schema

variable {objects : List Members} {name : String} {type : ColumnType}

/-! ## Types of columns -/

/-- The type that a member suggests for the column of a name. -/
def suggested? (name : String) (m : String × Json) : Option ColumnType :=
  if m.1 = name then ColumnType.infer? m.2 else none

theorem get?_learn (s : Schema) (members : Members) (name : String) :
    (s.learn members).types.get? name =
      (s.types.get? name).or (members.findSome? (suggested? name)) := by
  rw [learn]
  induction members generalizing s with
  | nil => exact (Option.or_none ..).symm
  | cons m members ih =>
    rw [List.foldl_cons, ih, List.findSome?_cons, suggested?]
    by_cases hname : m.1 = name
    · subst hname
      rw [if_pos rfl]
      cases hknown : s.types.get? m.1 <;> cases hnew : ColumnType.infer? m.2 <;> simp [hknown]
    · rw [if_neg hname]
      cases s.types.get? m.1 <;> cases ColumnType.infer? m.2 <;>
        simp [Named.get?_insert_of_ne _ _ (Ne.symm hname)]

/-- The type of a column is the first that is suggested for it. -/
theorem get?_infer (objects : List Members) (name : String) :
    (infer objects).types.get? name = objects.flatten.findSome? (suggested? name) := by
  have hfold : ∀ s : Schema, (objects.foldl learn s).types.get? name =
      (s.types.get? name).or (objects.flatten.findSome? (suggested? name)) := by
    induction objects with
    | nil => exact fun s => (Option.or_none ..).symm
    | cons members objects ih =>
      intro s
      rw [List.foldl_cons, ih, get?_learn, List.flatten_cons, List.findSome?_append, Option.or_assoc]
  exact (hfold ⟨∅⟩).trans Option.none_or

/-- All values of a name that are not null suggest one type. -/
def Agreeing (objects : List Members) : Prop :=
  ∀ name, ∃ type, ∀ object ∈ objects, ∀ j, (name, j) ∈ object →
    j = .null ∨ ColumnType.infer? j = some type

/-- Every integer fits a machine word. -/
def Fitting (objects : List Members) : Prop :=
  ∀ object ∈ objects, ∀ name i, object.lookup name = some (.int i) → Decimal.isInt64 i = true

/-- A column of agreeing data has the type that any of its values suggests. -/
theorem get?_infer_eq_some (h : Agreeing objects) : (infer objects).types.get? name = some type ↔
    ∃ object ∈ objects, ∃ j, (name, j) ∈ object ∧ ColumnType.infer? j = some type := by
  have hsuggested : ∀ m type, suggested? name m = some type ↔
      m.1 = name ∧ ColumnType.infer? m.2 = some type :=
    fun m type => Option.ite_none_right_eq_some
  rw [get?_infer]
  constructor
  · intro hfound
    obtain ⟨⟨name', j⟩, hm, hmember⟩ := List.exists_of_findSome?_eq_some hfound
    obtain ⟨rfl, hj⟩ := (hsuggested ..).1 hmember
    obtain ⟨object, hobject, hm⟩ := List.mem_flatten.1 hm
    exact ⟨object, hobject, j, hm, hj⟩
  · rintro ⟨object, hobject, j, hm, hj⟩
    have hmem : (name, j) ∈ objects.flatten := List.mem_flatten.2 ⟨object, hobject, hm⟩
    -- Some type is found, and the one that is found agrees.
    obtain ⟨type', hfound⟩ := Option.isSome_iff_exists.1 (List.findSome?_isSome_iff.2
      ⟨_, hmem, Option.isSome_iff_exists.2 ⟨type, (hsuggested ..).2 ⟨rfl, hj⟩⟩⟩)
    obtain ⟨⟨name', j'⟩, hm', hmember⟩ := List.exists_of_findSome?_eq_some hfound
    obtain ⟨rfl, hj'⟩ := (hsuggested ..).1 hmember
    obtain ⟨object', hobject', hm'⟩ := List.mem_flatten.1 hm'
    obtain ⟨common, hcommon⟩ := h name'
    have hsame : ∀ {object j type}, object ∈ objects → (name', j) ∈ object →
        ColumnType.infer? j = some type → type = common := by
      intro object j type hobject hm hj
      rcases hcommon object hobject j hm with rfl | hinfer
      · cases hj
      · exact Option.some.inj (hj.symm.trans hinfer)
    rw [hfound, hsame hobject hm hj, hsame hobject' hm' hj']

/-! ## Loading data under their own schema -/

theorem mem_of_lookup {object : Members} {j : Json} (h : object.lookup name = some j) :
    (name, j) ∈ object := by
  obtain ⟨before, behind, rfl, -⟩ := List.lookup_eq_some_iff.1 h
  exact List.mem_append_right _ List.mem_cons_self

/-- What agreeing data hold for a column suggests its type, if it is not null. -/
theorem infer?_of_lookup (h : Agreeing objects) {object : Members} (hobject : object ∈ objects)
    (hcolumn : (infer objects).types.get? name = some type) {j : Json}
    (hj : object.lookup name = some j) : j = .null ∨ ColumnType.infer? j = some type := by
  obtain ⟨object', hobject', j', hm', hj'⟩ := (get?_infer_eq_some h).1 hcolumn
  obtain ⟨common, hcommon⟩ := h name
  rcases hcommon object' hobject' j' hm' with rfl | hinfer
  · cases hj'
  · rw [← hj', hinfer]
    exact hcommon object hobject j (mem_of_lookup hj)

/-- A cell of agreeing data suits its column, unless it is an integer that fits no machine word. -/
theorem isSome_cell?_iff (h : Agreeing objects) {object : Members} (hobject : object ∈ objects)
    (hcolumn : (infer objects).types.get? name = some type) :
    (cell? object name type).isSome = true ↔
      ∀ i, object.lookup name = some (.int i) → Decimal.isInt64 i = true := by
  rw [cell?]
  cases hj : object.lookup name with
  | none => exact iff_of_true rfl fun i hi => by cases hi
  | some j =>
    simp only [Option.some.injEq]
    rcases infer?_of_lookup h hobject hcolumn hj with rfl | hinfer
    · exact iff_of_true (by cases type <;> rfl) fun i hi => by cases hi
    · exact ColumnType.isSome_ofJson?_iff hinfer

/-- Which agreeing data are loaded under their own schema. -/
theorem exists_ofObjects_iff (h : Agreeing objects) (mode : Mode) :
    (∃ t, Table.ofObjects none mode objects = .ok t) ↔ Fitting objects := by
  have hrows : (∃ t, Table.ofObjects none mode objects = .ok t) ↔
      ∃ rows, objects.mapM (infer objects).rowOfObject = .ok rows := by
    constructor
    · rintro ⟨t, ht⟩
      obtain ⟨rows, hrows, -⟩ := bind_eq_ok.1 ht
      exact ⟨rows, hrows⟩
    · rintro ⟨rows, hrows⟩
      exact ⟨_, bind_eq_ok.2 ⟨rows, hrows, rfl⟩⟩
  rw [hrows, exists_mapM_eq_ok]
  refine forall₂_congr fun object hobject => ?_
  constructor
  · rintro ⟨row, hrow⟩ name i hi
    have hcolumn : (infer objects).types.get? name = some .integer :=
      (get?_infer_eq_some h).2 ⟨object, hobject, _, mem_of_lookup hi, rfl⟩
    exact (isSome_cell?_iff h hobject hcolumn).1 ((rowOfObject_eq_ok.1 hrow).1 _ _ hcolumn) i hi
  · intro hfits
    exact ⟨_, rowOfObject_eq_ok.2 ⟨fun name type hcolumn =>
      (isSome_cell?_iff h hobject hcolumn).2 (hfits name), rfl⟩⟩

/-- Agreeing data that are not loaded hold an integer that fits no machine word. -/
theorem exists_of_ofObjects_eq_error (h : Agreeing objects) {mode : Mode} {e : FilterError}
    (hfail : Table.ofObjects none mode objects = .error e) :
    ∃ object ∈ objects, ∃ name i, object.lookup name = some (.int i) ∧
      Decimal.isInt64 i = false ∧ e = .unreadable name (Json.int i).compact .integer := by
  have hrows : objects.mapM (infer objects).rowOfObject = .error e := by
    cases hrows : objects.mapM (infer objects).rowOfObject with
    | error e' =>
      simp only [Table.ofObjects, Option.getD_none, hrows] at hfail
      cases hfail
      rfl
    | ok rows =>
      simp only [Table.ofObjects, Option.getD_none, hrows] at hfail
      cases hfail
  obtain ⟨object, hobject, hrow⟩ := exists_mem_of_mapM_eq_error hrows
  obtain ⟨name, type, j, hcolumn, hj, hvalue, rfl⟩ := exists_of_rowOfObject_eq_error hrow
  rcases infer?_of_lookup h hobject hcolumn hj with rfl | hinfer
  · cases type <;> cases hvalue
  · have hbeyond := mt (ColumnType.isSome_ofJson?_iff hinfer).2 (by simp [hvalue])
    push Not at hbeyond
    obtain ⟨i, rfl, hi⟩ := hbeyond
    cases hinfer
    exact ⟨object, hobject, name, i, hj, by simpa using hi, rfl⟩

end Schema

open Schema (Agreeing Fitting)

/-- The schema that data suggest accepts them, if all values of a name that are not null suggest one
    type. It has a column for every name with such a value, and every row has exactly these columns.
    The exception is an integer that fits no machine word: it does not suit the type that it
    suggests, and nothing else keeps such data from being loaded. -/
theorem inferred_schema_loads {objects : List Members} (h : Agreeing objects) (mode : Mode) :
    (∀ j t, ColumnType.infer? j = some t →
      ((t.ofJson? j).isSome = true ↔ ∀ i, j = .int i → Decimal.isInt64 i = true)) ∧
    (∀ name type, (Schema.infer objects).types.get? name = some type ↔
      ∃ object ∈ objects, ∃ j, (name, j) ∈ object ∧ ColumnType.infer? j = some type) ∧
    ((∃ t, Table.ofObjects none mode objects = .ok t) ↔ Fitting objects) ∧
    (∀ t, Table.ofObjects none mode objects = .ok t → t.schema = Schema.infer objects ∧
      t.rows.length = objects.length ∧
      ∀ row ∈ t.rows, row.names = (Schema.infer objects).types.names) ∧
    ∀ e, Table.ofObjects none mode objects = .error e →
      ∃ object ∈ objects, ∃ name i, object.lookup name = some (.int i) ∧
        Decimal.isInt64 i = false ∧ e = .unreadable name (Json.int i).compact .integer := by
  refine ⟨fun _ _ => ColumnType.isSome_ofJson?_iff, fun _ _ => Schema.get?_infer_eq_some h,
    Schema.exists_ofObjects_iff h mode, fun t ht => ?_,
    fun _ => Schema.exists_of_ofObjects_eq_error h⟩
  obtain ⟨rows, hrows, ht⟩ := bind_eq_ok.1 ht
  cases ht
  exact ⟨rfl, length_of_mapM hrows,
    forall_mem_of_mapM (fun _ _ => Schema.names_rowOfObject) hrows⟩

/-- The greatest number of 64 bits with a sign, and a day with a blank in front, whose column is
    null in the other row. A name without other values than null is no column. -/
theorem inferred_schema_loads_two_rows :
    let objects : List Members := [[("day", .string " 2020-1-2"), ("n", .null)],
      [("n", .int 9223372036854775807), ("x", .null)]]
    ∃ t, Table.ofObjects none .strict objects = .ok t ∧ t.schema.types.names = ["day", "n"] ∧
      t.rows.length = 2 ∧ ∀ row ∈ t.rows, row.names = ["day", "n"] := by
  intro objects
  have hday : ColumnType.infer? (.string " 2020-1-2") = some .date := by decide +kernel
  have hmembers : ∀ object ∈ objects, ∀ name j, (name, j) ∈ object → j = .null ∨
      (name, j) = ("day", .string " 2020-1-2") ∨ (name, j) = ("n", .int 9223372036854775807) := by
    simp only [objects, List.mem_cons, List.not_mem_nil, or_false]
    grind
  have hagreeing : Agreeing objects := by
    refine fun name => ⟨if name = "day" then .date else .integer, fun object hobject j hj => ?_⟩
    refine (hmembers object hobject name j hj).imp_right ?_
    rintro (⟨rfl, rfl⟩ | ⟨rfl, rfl⟩)
    · exact hday
    · rfl
  have hnames : (Schema.infer objects).types.names = ["day", "n"] := by decide +kernel
  have hfitting : Fitting objects := by
    intro object hobject name i hi
    rcases hmembers object hobject name _ (Schema.mem_of_lookup hi) with h | h | h
    · cases h
    · cases h
    · cases h
      decide
  obtain ⟨-, -, hload, hrows, -⟩ := inferred_schema_loads hagreeing .strict
  obtain ⟨t, ht⟩ := hload.2 hfitting
  obtain ⟨hschema, hlength, hcolumns⟩ := hrows t ht
  exact ⟨t, ht, by rw [hschema, hnames], hlength, fun row hrow => by rw [hcolumns row hrow, hnames]⟩

/-- An integer that fits no machine word is refused by the column that it suggests. -/
theorem inferred_schema_refuses :
    let objects : List Members := [[("n", .int 9223372036854775808)]]
    Agreeing objects ∧ ColumnType.infer? (.int 9223372036854775808) = some .integer ∧
      ColumnType.integer.ofJson? (.int 9223372036854775808) = none ∧
      Table.ofObjects none .strict objects =
        .error (.unreadable "n" "9223372036854775808" .integer) := by
  intro objects
  refine ⟨fun name => ⟨.integer, ?_⟩, rfl, rfl, ?_⟩
  · simp [objects, ColumnType.infer?]
  · decide +kernel

end RowQuery
