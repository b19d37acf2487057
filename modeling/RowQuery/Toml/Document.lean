import RowQuery.Toml.Basic

/-!
# The table that a document builds

A document is a run of statements: headers that name the table to which the following keys belong,
and keys with their values. Dotted keys and headers name tables on the way, which come into being
as they are met. Whether a table may be met again depends on how it came about (`Origin`): one with
a header of its own stays as it is, except for tables in it; one that was only on the way to
another may still get its header; one made by dotted keys may be added to by dotted keys alone.
An inline table is built in the same way from its keys, and then closed.
-/

namespace RowQuery.Toml

/-- A key with the tables on the way to it. -/
structure Key where
  parents : List String
  name : String
deriving DecidableEq, Repr

/-- The path of a key. -/
def Key.path (k : Key) : List String :=
  k.parents ++ [k.name]

/-- A statement of a document. -/
inductive Statement
  /-- A value, under a key of the current table. -/
  | assign (key : Key) (value : Toml)
  /-- The header of a table. -/
  | table (key : Key)
  /-- The header of a further element of an array of tables. -/
  | element (key : Key)

/-- How a table came about. -/
inductive Origin
  /-- By a header of its own. -/
  | header
  /-- On the way to the table of a header. -/
  | way
  /-- By a dotted key. -/
  | dotted
deriving DecidableEq

/-- A part of a document in the making. -/
inductive Node
  /-- A value that is complete. -/
  | value (v : Toml)
  | table (origin : Origin) (entries : List (String × Node))
  /-- An array of tables: those that are complete, and the last. -/
  | elements (earlier : List Toml) (last : List (String × Node))

/-- A table in the making. -/
structure Draft where
  origin : Origin
  entries : List (String × Node)

/-- Sets an entry, at its place or at the end. -/
def putEntry (name : String) (n : Node) : List (String × Node) → List (String × Node)
  | [] => [(name, n)]
  | e :: es => if e.1 = name then (name, n) :: es else e :: putEntry name n es

mutual

/-- The value of a part. -/
def Node.toToml : Node → Toml
  | .value v => v
  | .table _ entries => .table (finishEntries entries)
  | .elements earlier last => .array (earlier ++ [.table (finishEntries last)])

/-- The entries of a table, complete. -/
def finishEntries : List (String × Node) → List (String × Toml)
  | [] => []
  | e :: es => finishEntry e :: finishEntries es

/-- An entry of a table, complete. -/
def finishEntry : String × Node → String × Toml
  | (name, n) => (name, n.toToml)

end

namespace Draft

/-- The draft of a document or of an inline table. -/
def empty : Draft :=
  ⟨.header, []⟩

/-- The table that a draft has become. -/
def finish (d : Draft) : Toml :=
  .table (finishEntries d.entries)

/-- Changes the table at a path. Tables that are missing on the way come into being with the given
    origin; a way by dotted keys does not lead through a table with a header. -/
def change (made : Origin) (f : Draft → Option Draft) : List String → Draft → Option Draft
  | [], d => f d
  | name :: path, d => do
    let asTable (inner : Draft) := (change made f path inner).map fun r =>
      Node.table r.origin r.entries
    let node ← match d.entries.lookup name with
      | none => asTable ⟨made, []⟩
      | some (.value _) => none
      | some (.table .header entries) =>
        if made = .dotted then none else asTable ⟨.header, entries⟩
      | some (.table origin entries) => asTable ⟨origin, entries⟩
      | some (.elements earlier last) =>
        (change made f path ⟨.header, last⟩).map fun r => .elements earlier r.entries
    some { d with entries := putEntry name node d.entries }

/-- Adds a value under a key. The key must be new, and its table either the current one or made by
    dotted keys. -/
def assign (key : Key) (value : Toml) (d : Draft) : Option Draft :=
  let add (inner : Draft) : Option Draft :=
    if (key.parents ≠ [] ∧ inner.origin ≠ .dotted) ∨ (inner.entries.lookup key.name).isSome then
      none
    else some { inner with entries := inner.entries ++ [(key.name, .value value)] }
  d.change .dotted add key.parents

/-- Opens the table of a header, which must be new or have been only on the way. -/
def openTable (key : Key) (d : Draft) : Option Draft :=
  let add (inner : Draft) : Option Draft :=
    match inner.entries.lookup key.name with
    | none => some { inner with entries := putEntry key.name (.table .header []) inner.entries }
    | some (.table .way entries) =>
      some { inner with entries := putEntry key.name (.table .header entries) inner.entries }
    | some _ => none
  d.change .way add key.parents

/-- Opens a further element of an array of tables. -/
def openElement (key : Key) (d : Draft) : Option Draft :=
  let add (inner : Draft) : Option Draft :=
    match inner.entries.lookup key.name with
    | none => some { inner with entries := putEntry key.name (.elements [] []) inner.entries }
    | some (.elements earlier last) =>
      let closed := earlier ++ [.table (finishEntries last)]
      some { inner with entries := putEntry key.name (.elements closed []) inner.entries }
    | some _ => none
  d.change .way add key.parents

/-- Adds what a list of statements says, beginning in the table at a path. -/
def addAll (current : List String) (d : Draft) : List Statement → Option Draft
  | [] => some d
  | .assign key value :: rest => do
    addAll current (← d.change .way (assign key value) current) rest
  | .table key :: rest => do addAll key.path (← d.openTable key) rest
  | .element key :: rest => do addAll key.path (← d.openElement key) rest

end Draft

/-- The table that a list of statements builds. -/
def ofStatements (statements : List Statement) : Option Toml :=
  (Draft.empty.addAll [] statements).map Draft.finish

end RowQuery.Toml
