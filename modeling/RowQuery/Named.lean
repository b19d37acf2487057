/-!
# Values by name

Columns have types, rows have values, objects have members: in each case a finite map from names to
something, enumerated in the order of the names (by code point, which is the order of their
bytes). `Named α` is such a map. That its names ascend is part of the type, so a name occurs once
and two maps with the same entries are equal.

* `get?_insert_self`, `get?_insert_of_ne`: what is found after an insertion;
* `get?_mapWithName`: what is found once a function has been applied to every value;
* `get?_eq_some_iff`: what is found is what is listed.
-/

namespace RowQuery

/-- Puts an entry at its place among entries whose names ascend. An entry of that name is
    replaced. -/
def insertByName {α : Type} (name : String) (value : α) :
    List (String × α) → List (String × α)
  | [] => [(name, value)]
  | e :: es =>
    if name < e.1 then (name, value) :: e :: es
    else if name = e.1 then (name, value) :: es
    else e :: insertByName name value es

/-- A finite map from names to values, in the order of the names. -/
structure Named (α : Type) where
  entries : List (String × α)
  ascending : entries.Pairwise fun a b => a.1 < b.1
deriving DecidableEq

theorem mem_insertByName {α : Type} {name : String} {value : α} {es : List (String × α)}
    {e : String × α} (h : e ∈ insertByName name value es) : e = (name, value) ∨ e ∈ es := by
  induction es with
  | nil => simpa [insertByName] using h
  | cons d ds ih =>
    simp only [insertByName] at h
    split at h
    · simpa using h
    split at h
    · rcases List.mem_cons.1 h with h | h
      · exact .inl h
      · exact .inr (List.mem_cons_of_mem _ h)
    · rcases List.mem_cons.1 h with h | h
      · exact .inr (h ▸ List.mem_cons_self)
      · exact (ih h).imp_right (List.mem_cons_of_mem _)

/-- A name that is neither below nor equal to another is above it. -/
theorem name_lt_of_not {a b : String} (h : ¬ a < b) (h' : a ≠ b) : b < a :=
  Std.lt_of_le_of_ne (Std.not_lt.1 h) (Ne.symm h')

theorem ascending_insertByName {α : Type} {name : String} {value : α} {es : List (String × α)}
    (h : es.Pairwise fun a b => a.1 < b.1) :
    (insertByName name value es).Pairwise fun a b => a.1 < b.1 := by
  induction es with
  | nil => simp [insertByName]
  | cons d ds ih =>
    obtain ⟨hd, hds⟩ := List.pairwise_cons.1 h
    simp only [insertByName]
    split
    · rename_i hlt
      refine List.pairwise_cons.2 ⟨fun e he => ?_, h⟩
      rcases List.mem_cons.1 he with rfl | he
      · exact hlt
      · exact String.lt_trans hlt (hd e he)
    split
    · rename_i _ heq
      exact List.pairwise_cons.2 ⟨fun e he => by simpa [heq] using hd e he, hds⟩
    · rename_i hlt hne
      refine List.pairwise_cons.2 ⟨fun e he => ?_, ih hds⟩
      rcases mem_insertByName he with rfl | he
      · exact name_lt_of_not hlt hne
      · exact hd e he

namespace Named

variable {α β : Type}

/-- The map without entries. -/
def empty : Named α := ⟨[], List.Pairwise.nil⟩

instance : EmptyCollection (Named α) := ⟨empty⟩

instance : Inhabited (Named α) := ⟨empty⟩

/-- The map with one entry set. -/
def insert (m : Named α) (name : String) (value : α) : Named α :=
  ⟨insertByName name value m.entries, ascending_insertByName m.ascending⟩

/-- The map with these entries, of which the last of a name counts. -/
def ofList (es : List (String × α)) : Named α :=
  es.foldl (fun m e => m.insert e.1 e.2) empty

/-- The value of a name. -/
def get? (m : Named α) (name : String) : Option α :=
  m.entries.lookup name

/-- The names, in ascending order. -/
def names (m : Named α) : List String :=
  m.entries.map (·.1)

/-- The number of entries. -/
def size (m : Named α) : Nat :=
  m.entries.length

/-- Whether there are no entries. -/
def isEmpty (m : Named α) : Bool :=
  m.entries.isEmpty

/-- The map with a function of name and value applied to every value. -/
def mapWithName (f : String → α → β) (m : Named α) : Named β :=
  ⟨m.entries.map fun e => (e.1, f e.1 e.2), List.pairwise_map.2 m.ascending⟩

theorem ext_entries {m n : Named α} (h : m.entries = n.entries) : m = n := by
  cases m
  cases n
  simpa using h

/-- The first entry decides if it has the name. -/
theorem lookup_cons_self {name : String} {value : α} {es : List (String × α)} :
    ((name, value) :: es).lookup name = some value := by
  rw [List.lookup_cons, beq_self_eq_true]

/-- An entry with another name is passed over. -/
theorem lookup_cons_of_ne {name : String} {e : String × α} {es : List (String × α)}
    (h : name ≠ e.1) : (e :: es).lookup name = es.lookup name := by
  have hb : (name == e.1) = false := by simpa using h
  obtain ⟨k, v⟩ := e
  rw [List.lookup_cons, hb]

theorem lookup_insertByName_self {name : String} {value : α} {es : List (String × α)} :
    (insertByName name value es).lookup name = some value := by
  induction es with
  | nil => exact lookup_cons_self
  | cons d ds ih =>
    simp only [insertByName]
    split
    · exact lookup_cons_self
    split
    · exact lookup_cons_self
    · rename_i hne
      rw [lookup_cons_of_ne hne, ih]

theorem lookup_insertByName_of_ne {name other : String} {value : α} {es : List (String × α)}
    (h : other ≠ name) : (insertByName name value es).lookup other = es.lookup other := by
  induction es with
  | nil => exact lookup_cons_of_ne h
  | cons d ds ih =>
    simp only [insertByName]
    split
    · exact lookup_cons_of_ne h
    split
    · rename_i heq
      rw [lookup_cons_of_ne h, lookup_cons_of_ne (heq ▸ h)]
    · by_cases hd : other = d.1
      · subst hd
        rw [lookup_cons_self, lookup_cons_self]
      · rw [lookup_cons_of_ne hd, lookup_cons_of_ne hd, ih]

@[simp] theorem get?_insert_self (m : Named α) (name : String) (value : α) :
    (m.insert name value).get? name = some value :=
  lookup_insertByName_self

theorem get?_insert_of_ne (m : Named α) {name other : String} (value : α) (h : other ≠ name) :
    (m.insert name value).get? other = m.get? other :=
  lookup_insertByName_of_ne h

theorem get?_mapWithName (f : String → α → β) (m : Named α) (name : String) :
    (m.mapWithName f).get? name = (m.get? name).map (f name) := by
  obtain ⟨es, h⟩ := m
  show (es.map fun e => (e.1, f e.1 e.2)).lookup name = (es.lookup name).map (f name)
  clear h
  induction es with
  | nil => rfl
  | cons d ds ih =>
    obtain ⟨k, v⟩ := d
    rw [List.map_cons]
    by_cases hk : name = k
    · subst hk
      rw [lookup_cons_self, lookup_cons_self, Option.map_some]
    · rw [lookup_cons_of_ne (e := (k, v)) hk, ← ih]
      exact lookup_cons_of_ne hk

/-- What is found under a name is what is listed under it. -/
theorem get?_eq_some_iff {m : Named α} {name : String} {value : α} :
    m.get? name = some value ↔ (name, value) ∈ m.entries := by
  obtain ⟨es, h⟩ := m
  simp only [get?]
  induction es with
  | nil => simp
  | cons d ds ih =>
    obtain ⟨hd, hds⟩ := List.pairwise_cons.1 h
    by_cases hn : name = d.1
    · subst hn
      rw [lookup_cons_self, Option.some.injEq, List.mem_cons]
      refine ⟨fun he => .inl (he ▸ rfl), fun he => ?_⟩
      rcases he with he | he
      · exact congrArg Prod.snd he.symm
      · exact absurd (hd _ he) (String.lt_irrefl _)
    · rw [lookup_cons_of_ne hn, ih hds, List.mem_cons]
      exact ⟨.inr, fun he => he.resolve_left fun he => hn (congrArg Prod.fst he)⟩

end Named

end RowQuery
