import RowQuery.Page.Request
import RowQuery.Json.Basic
import RowQuery.Toml.Reader

/-!
# Settings of the program

What a configuration file can set: how filters are read, the defaults and bounds of page requests,
and whether output has colours. Everything may be left out, and whatever is not a setting is passed
over; but a setting must have a value of its kind.

The file may state the version of its layout. There is one version so far.
-/

namespace RowQuery

/-- The settings of the program. -/
structure Settings where
  /-- Whether input that is part of no clause is refused, if it is said. -/
  strict? : Option Bool := none
  page : PageSettings := {}
  /-- Whether output has colours, if it is said. -/
  colour? : Option Bool := none
deriving DecidableEq

namespace Settings

/-- The version of the layout of configuration files. -/
def version : Nat := 1

/-! ## Reading -/

/-- A truth value. -/
def flag? : Toml → Option Bool
  | .boolean b => some b
  | _ => none

/-- A text. -/
def text? : Toml → Option String
  | .string s => some s
  | _ => none

/-- An integer. -/
def integer? : Toml → Option Int
  | .integer i => some i
  | _ => none

/-- An integer that is not negative. -/
def natural? : Toml → Option Nat
  | .integer i => if 0 ≤ i then some i.toNat else none
  | _ => none

/-- A number of a version: an unsigned word of 32 bits. -/
def version? (t : Toml) : Option Nat :=
  (natural? t).filter (· < 0x100000000)

/-- A setting that may be left out. -/
def optional? {α : Type} (read : Toml → Option α) (t : Toml) (key : String) :
    Option (Option α) :=
  match t.get? key with
  | none => some none
  | some v => (read v).map some

/-- A setting with a default. -/
def withDefault? {α : Type} (read : Toml → Option α) (default : α) (t : Toml) (key : String) :
    Option α :=
  (optional? read t key).map (·.getD default)

/-- A section of settings, as a table. A section that is left out sets nothing, and neither does a
    date. Instead of a table there may be an array, which gives the settings in the order of their
    keys, at least so many of them. -/
def section? (keys : List String) (least : Nat) (t : Toml) (key : String) : Option Toml :=
  match t.get? key with
  | none | some (.dateTime _) => some (.table [])
  | some (.table entries) => some (.table entries)
  | some (.array items) => if least ≤ items.length then some (.table (keys.zip items)) else none
  | some _ => none

/-- The keys of the settings of page requests. -/
def pageKeys : List String :=
  ["default_offset", "default_limit", "max_offset", "max_limit", "default_sort", "default_desc"]

/-- The defaults and bounds of page requests that a table sets. -/
def page? (t : Toml) : Option PageSettings := do
  let d : PageSettings := {}
  return {
    defaultOffset := ← withDefault? natural? d.defaultOffset t "default_offset"
    defaultLimit := ← withDefault? integer? d.defaultLimit t "default_limit"
    maxOffset? := ← optional? natural? t "max_offset"
    maxLimit := ← withDefault? integer? d.maxLimit t "max_limit"
    defaultSort := ← withDefault? text? d.defaultSort t "default_sort"
    defaultDescending := ← withDefault? flag? d.defaultDescending t "default_desc" }

/-- The settings of a document. -/
def ofToml? (t : Toml) : Option Settings := do
  let _ ← optional? version? t "version"
  return {
    strict? := ← optional? flag? (← section? ["strict"] 1 t "filter") "strict"
    page := ← page? (← section? pageKeys 0 t "pagination")
    colour? := ← optional? flag? (← section? ["color"] 1 t "output") "color" }

/-- The settings that the characters of a configuration file make. -/
def ofChars? (s : List Char) : Option Settings := do
  ofToml? (← Toml.readChars? s)

/-- The settings of a configuration file. -/
def ofText? (s : String) : Option Settings :=
  ofChars? s.toList

/-! ## Writing -/

/-- The lines of the configuration file to begin with. They set nothing but the version, and say
    what can be set. -/
def initialLines : List String :=
  ["# qf - query filter CLI configuration",
    "",
    "# Config schema version (do not modify)",
    "version = 1",
    "",
    "# Filter parsing",
    "[filter]",
    "# strict = false            # Reject input that is not part of the filter language",
    "",
    "# Pagination defaults and bounds",
    "[pagination]",
    "# default_offset = 0",
    "# default_limit = 25        # Used when a request has no limit",
    "# max_offset = 10000        # Unset means unbounded",
    "# max_limit = 1000",
    "# default_sort = \"\"         # Empty means unsorted",
    "# default_desc = true",
    "",
    "# Output preferences",
    "[output]",
    "# color = true"]

/-- The characters of the configuration file to begin with. -/
def initialChars : List Char :=
  initialLines.flatMap fun line => line.toList ++ ['\n']

/-- The configuration file to begin with. -/
def initialText : String :=
  String.ofList initialChars

/-- Whether filters are read strictly. -/
def strict (s : Settings) : Bool :=
  s.strict?.getD false

/-- Whether output has colours. -/
def colour (s : Settings) : Bool :=
  s.colour?.getD true

/-- A member for a value that is there. -/
def member? {α : Type} (name : String) (encode : α → Json) (v? : Option α) :
    List (String × Json) :=
  (v?.map fun v => (name, encode v)).toList

/-- The settings as JSON, without what is neither set nor has a default. -/
def toJson (s : Settings) : Json :=
  .object [
    ("filter", .object (member? "strict" .bool s.strict?)),
    ("output", .object (member? "color" .bool s.colour?)),
    ("pagination", .object ([
      ("default_desc", .bool s.page.defaultDescending),
      ("default_limit", .int s.page.defaultLimit),
      ("default_offset", .int s.page.defaultOffset),
      ("default_sort", .string s.page.defaultSort),
      ("max_limit", .int s.page.maxLimit)] ++
      member? "max_offset" (fun n : Nat => .int n) s.page.maxOffset?)),
    ("version", .int version)]

end Settings

end RowQuery
