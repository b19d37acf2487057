import RowQuery.Files.Basic
import RowQuery.Files.Path
import RowQuery.Text.Utf8

/-!
# A tree of files in memory

A `FileTree` says for every place, that is for every list of names from the root, what stands there.
Paths are followed step by step from the root or from the working directory: every step but the last
must lead to a directory, and so must the last if a slash follows it. Names and paths are bounded in
their bytes.

* `content?_put_of_ne`: putting an entry somewhere leaves the content of every other place alone.
-/

namespace RowQuery

/-- Where something stands: the names on the way from the root. -/
abbrev Place := List String

/-- What stands at a place. -/
inductive Entry
  | file (content : String)
  | directory
deriving DecidableEq, Repr

/-- Files and directories by their places, and the working directory. -/
structure FileTree where
  entries : Place → Option Entry
  working : Place

namespace FileTree

/-- What stands at a place. The root is a directory. -/
def entry? (t : FileTree) (place : Place) : Option Entry :=
  if place = [] then some .directory else t.entries place

/-- The content of the file at a place, if a file is there. -/
def content? (t : FileTree) (place : Place) : Option String :=
  match t.entry? place with
  | some (.file content) => some content
  | _ => none

/-- Puts an entry at a place. -/
def put (t : FileTree) (place : Place) (e : Entry) : FileTree :=
  { t with entries := fun p => if p = place then some e else t.entries p }

theorem content?_put_of_ne {t : FileTree} {place other : Place} (e : Entry) (h : other ≠ place) :
    (t.put place e).content? other = t.content? other := by
  simp [content?, entry?, put, h]

theorem content?_put_file {t : FileTree} {place : Place} (content : String) (h : place ≠ []) :
    (t.put place (.file content)).content? place = some content := by
  simp [content?, entry?, put, h]

/-! ## Following paths -/

/-- Where a path leads, and whether it asks for a directory there. -/
structure Target where
  place : Place
  asDirectory : Bool

/-- The greatest number of bytes in a name. -/
def maxName : Nat := 255

/-- The greatest number of bytes in a path. -/
def maxPath : Nat := 4095

/-- Follows steps from a directory. Nothing needs to stand where the last of them leads. -/
def follow (t : FileTree) (here : Place) : List String → Except FileError Target
  | [] => .ok ⟨here, true⟩
  | name :: rest =>
    if name = "" ∨ name = "." then t.follow here rest
    else if name = ".." then t.follow here.dropLast rest
    else if maxName < Text.byteLength name.toList then .error .nameTooLong
    else
      let next := here ++ [name]
      if rest = [] then .ok ⟨next, false⟩
      else match t.entry? next with
        | some .directory => t.follow next rest
        | some (.file _) => .error .notDirectory
        | none => if rest.all (· = "") then .ok ⟨next, true⟩ else .error .notFound

/-- Where a path leads. -/
def target (t : FileTree) (path : String) : Except FileError Target :=
  if path = "" then .error .notFound
  else if maxPath < Text.byteLength path.toList then .error .nameTooLong
  else t.follow (if Path.isAbsolute path then [] else t.working) (Path.steps path)

/-! ## Operations -/

/-- The content of a file. -/
def read (t : FileTree) (path : String) : Except FileError String := do
  let target ← t.target path
  match t.entry? target.place with
  | some (.file content) => if target.asDirectory then throw .notDirectory else return content
  | some .directory => throw .isDirectory
  | none => throw .notFound

/-- What stands where a path leads. -/
def find? (t : FileTree) (path : String) : Option Entry :=
  match t.target path with
  | .error _ => none
  | .ok target => match t.entry? target.place with
    | some (.file content) => if target.asDirectory then none else some (.file content)
    | other => other

/-- The tree with a file written. -/
def write (t : FileTree) (path content : String) : Except FileError FileTree := do
  let target ← t.target path
  match t.entry? target.place with
  | some (.file _) =>
    if target.asDirectory then throw .notDirectory else return t.put target.place (.file content)
  | some .directory => throw .isDirectory
  | none =>
    if target.asDirectory then throw .isDirectory else return t.put target.place (.file content)

/-- The tree with a directory made in a directory that is there. -/
def makeDirectory (t : FileTree) (path : String) : Except FileError FileTree := do
  let target ← t.target path
  match t.entry? target.place with
  | some _ => throw .alreadyExists
  | none => return t.put target.place .directory

/-- Makes a directory, if something is not a directory there already. -/
def ensureDirectory (t : FileTree) (path : String) : FileTree × Except FileError Unit :=
  match t.makeDirectory path with
  | .ok t' => (t', .ok ())
  | .error e => (t, if t.find? path = some .directory then .ok () else .error e)

/-- Makes the first of some directories, each of which lies in the next, and all that are missing on
    the way. -/
def makeAll (t : FileTree) : List String → FileTree × Except FileError Unit
  | [] => (t, .ok ())
  | path :: above =>
    match t.ensureDirectory path with
    | (_, .error .notFound) => match t.makeAll above with
      | (t, .ok _) => t.ensureDirectory path
      | failed => failed
    | done => done

/-- Makes a directory, with all that are missing on the way to it. -/
def makeDirectories (t : FileTree) (path : String) : FileTree × Except FileError Unit :=
  t.makeAll (Path.chain path)

/-- The tree with a file at a path below the working directory, and with the directories on the
    way. -/
def addFile (t : FileTree) (path content : String) : FileTree :=
  let made := match Path.parent? path with
    | some directory => (t.makeDirectories directory).1
    | none => t
  match made.write path content with
  | .ok t' => t'
  | .error _ => made

/-- The tree that holds given files below a working directory. -/
def ofFiles (working : Place) (files : List (String × String)) : FileTree :=
  let bare : FileTree := ⟨fun p => if p <+: working then some .directory else none, working⟩
  files.foldl (fun t f => t.addFile f.1 f.2) bare

instance : Files (StateM FileTree) where
  isThere path := return ((← get).find? path).isSome
  read path := return (← get).read path
  write path content := do
    match (← get).write path content with
    | .ok t => set t; return .ok ()
    | .error e => return .error e
  makeDirectories path := modifyGet fun t =>
    let (t', r) := t.makeDirectories path
    (r, t')

end FileTree

end RowQuery
