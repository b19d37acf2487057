import RowQuery.Command.Arguments
import RowQuery.Filter.Sql
import RowQuery.Page.Request

/-!
# Invocations

An invocation is what a command line asks for once its arguments have been understood: a command, or
none, and the options of the program. An option of the program counts wherever on the path it is
given; only at one and the same topic do `--verbose` and `--quiet` exclude each other.
-/

namespace RowQuery

/-- The options of the program. -/
structure Options where
  verbose : Bool := false
  quiet : Bool := false
  json : Bool := false
  noColour : Bool := false
  strict : Bool := false
deriving DecidableEq, Repr

/-- The options of a query for rows. -/
structure QueryOptions where
  /-- The file that holds the data. -/
  data : String
  /-- The file that holds the schema; inferred from the data if there is none. -/
  schema? : Option String := none
  /-- The address of a request, in place of the options below. -/
  url? : Option String := none
  filter? : Option String := none
  offset? : Option Int := none
  limit? : Option Int := none
  sort? : Option String := none
  ascending : Bool := false
  /-- Whether to show headers in place of the page's own links. -/
  links : Bool := false
deriving DecidableEq, Repr

/-- A shell for which completions can be written. -/
inductive Shell
  | bash
  | zsh
  | fish
  | powershell
deriving DecidableEq, Repr

/-- What to do about the configuration. -/
inductive ConfigAction
  | show
  | path
  /-- Writes the configuration file to begin with, over one that is there only if forced. -/
  | init (force : Bool)
deriving DecidableEq, Repr

/-- A command of the program. -/
inductive Command
  | tokens (filter : String)
  | parse (filter : String)
  | compile (filter schema : String) (style : Sql.Style)
  | query (options : QueryOptions)
  | config (action : ConfigAction)
  | completions (shell : Shell)
deriving DecidableEq, Repr

/-- What a command line asks for. -/
structure Invocation where
  options : Options
  command? : Option Command
deriving DecidableEq, Repr

/-- The shell of a word. -/
def Shell.ofName? : String → Option Shell
  | "bash" => some bash
  | "zsh" => some zsh
  | "fish" => some fish
  | "powershell" => some powershell
  | _ => none

namespace Given

/-- The value of an option. -/
def value? (g : Given) (name : String) : Option String :=
  g.options.lookup name

/-- Whether a flag is given. -/
def has (g : Given) (name : String) : Bool :=
  (g.value? name).isSome

/-- The value of an option that has to be given. -/
def required (g : Given) (name : String) : Except UsageError String :=
  match g.value? name with
  | some value => .ok value
  | none => .error (.missing ("--" ++ name))

/-- The operand, which has to be given. -/
def operand (g : Given) (name : String) : Except UsageError String :=
  match g.operands with
  | value :: _ => .ok value
  | [] => .error (.missing name)

/-- The number that an option gives. -/
def integer? (g : Given) (name : String) : Option Int :=
  (g.value? name).bind fun value => Decimal.readInt64? value.toList

/-- Refuses an option beside others that it excludes. -/
def exclude (g : Given) (name : String) (others : List String) : Except UsageError Unit :=
  match g.has name, others.find? g.has with
  | true, some other => .error (.conflict ("--" ++ name) ("--" ++ other))
  | _, _ => .ok ()

/-- The options of a query for rows. -/
def queryOptions (g : Given) : Except UsageError QueryOptions := do
  g.exclude "url" ["filter", "offset", "limit", "sort", "asc"]
  return {
    data := ← g.required "data"
    schema? := g.value? "schema"
    url? := g.value? "url"
    filter? := g.value? "filter"
    offset? := g.integer? "offset"
    limit? := g.integer? "limit"
    sort? := g.value? "sort"
    ascending := g.has "asc"
    links := g.has "links" }

/-- The command that is given at the last topic of a path. -/
def command? (g : Given) : Topic → Except UsageError (Option Command)
  | .program => .ok none
  | .tokens => do return some (.tokens (← g.operand "FILTER"))
  | .parse => do return some (.parse (← g.operand "FILTER"))
  | .compile => do
    let filter ← g.operand "FILTER"
    let schema ← g.required "schema"
    return some (.compile filter schema
      (if g.value? "placeholders" = some "qmark" then .positional else .numbered))
  | .query => do return some (.query (← g.queryOptions))
  | .config | .configShow => .ok (some (.config .show))
  | .configPath => .ok (some (.config .path))
  | .configInit => .ok (some (.config (.init (g.has "force"))))
  | .completions => do
    match Shell.ofName? (← g.operand "SHELL") with
    | some shell => return some (.completions shell)
    | none => throw (.missing "SHELL")

end Given

/-- The options of the program that are given on a path. -/
def Options.ofPath (path : List (Topic × Given)) : Options :=
  let has (name : String) := path.any fun step => step.2.has name
  { verbose := has "verbose", quiet := has "quiet", json := has "json"
    noColour := has "no-color", strict := has "strict" }

/-- Reads the arguments of a command line. -/
def Invocation.read (arguments : List String) : Except Stop Invocation := do
  let path ← Topic.program.read none {} [] arguments
  path.forM fun step => (step.2.exclude "quiet" ["verbose"]).mapError Stop.refused
  match path with
  | (topic, g) :: _ =>
    let command? ← (g.command? topic).mapError Stop.refused
    return ⟨.ofPath path, command?⟩
  | [] => return ⟨{}, none⟩

end RowQuery
