import RowQuery.Command.Completion
import RowQuery.Command.Query
import RowQuery.Report.Filter

/-!
# Running the program

`Invocation.run` carries out a command: it loads the settings if the command has use for them, and
turns what the command does into the outcome of the run. Commands on the configuration and
completions do not load settings, so they work beside a configuration file that is broken.

The help texts, and what is said of arguments that are refused, stand in for those of the library
that reads the command line of the program; which stream they go to and the exit status are the
program's.
-/

namespace RowQuery

/-- The version of the program. -/
def programVersion : String := "0.1.0"

variable {m : Type → Type} [Monad m]

/-! ## Commands on filters -/

/-- Shows the tokens of a filter. -/
def runTokens (ctx : Context) (filter : String) : Action m Unit := do
  let found ← .ofResult (((scan filter).checked ctx.mode).mapError .filter)
  ctx.display (Report.scanJson found) (Report.scanText ctx.colour found)

/-- Shows the clauses of a filter. -/
def runParse (ctx : Context) (filter : String) : Action m Unit := do
  let clauses ← .ofResult ((Clause.parse ctx.mode filter).mapError .filter)
  ctx.display (Report.clausesJson clauses) (Report.clausesText ctx.colour clauses)

/-- The remark on a filter that has been compiled. -/
def columnsRemark (p : Predicate) : String :=
  "Columns referenced: " ++
    String.ofList (joinText ", ".toList (p.columns.map String.toList))

/-- Shows what a filter compiles to. -/
def showCompiled (ctx : Context) (p? : Option Predicate) (fragment? : Option SqlFragment) :
    Action m Unit := do
  if let some p := p? then ctx.remark (columnsRemark p)
  ctx.display (Report.compiledJson p? fragment?) (Report.compiledText ctx.colour p? fragment?)

variable [Files m]

/-- Compiles a filter under the schema of a file. -/
def runCompile (ctx : Context) (filter path : String) (style : Sql.Style) : Action m Unit := do
  let schema ← .ofResult (← .files (loadSchema path))
  let p? ← .ofResult ((Predicate.compile ctx.mode schema.resolve filter).mapError .filter)
  showCompiled ctx p? (p?.map (.ofPredicate style 0))

/-! ## Commands -/

/-- What the program says when no command is given. -/
def greeting : String :=
  "qf - query filter CLI\nUse --help for usage information\n"

/-- Whether a command has use for the settings. -/
def Command.usesSettings : Command → Bool
  | .config _ | .completions _ => false
  | _ => true

/-- Carries out a command. -/
def Command.run (ctx : Context) (env : Environment) : Command → Action m Unit
  | .tokens filter => runTokens ctx filter
  | .parse filter => runParse ctx filter
  | .compile filter schema style => runCompile ctx filter schema style
  | .query q => runQuery ctx q
  | .config action => runConfig ctx env action
  | .completions shell => .print (completionScript shell)

/-- The settings for a command: those of the configuration file, or the defaults if the command has
    no use for them. -/
def Command.loadSettings (env : Environment) (c : Command) : m (Except ConfigError Settings) :=
  if c.usesSettings then
    match env.configPath with
    | .error e => return .error e
    | .ok path => RowQuery.loadSettings path
  else return .ok {}

namespace Invocation

/-- Does what an invocation asks for. -/
def action (i : Invocation) (env : Environment) : Action m Unit := do
  match i.command? with
  | none => if i.options.quiet then pure () else .print greeting
  | some c =>
    let settings ← .ofConfig (← .files (c.loadSettings env))
    c.run (.ofSettings i.options settings) env

/-- Runs an invocation. -/
def run (i : Invocation) (env : Environment) : m Outcome :=
  (i.action env).outcome i.options.json

end Invocation

/-! ## The program -/

/-- A line for an option, in place of the library's own in a help text. -/
def switchLine (o : Switch) : String :=
  let letter := match o.letter? with
    | some c => "-" ++ c.toString ++ ", "
    | none => "    "
  "  " ++ letter ++ "--" ++ o.name ++ (if o.argument = .nothing then "" else " <VALUE>") ++ "\n"

/-- A help text on a topic, in place of the library's own. -/
def helpText (t : Topic) : String :=
  "Usage: " ++ t.title ++ " [OPTIONS]" ++ (if t.operand?.isSome then " <OPERAND>" else "") ++
    (if t.commands = [] then "" else " [COMMAND]") ++ "\n" ++
    (if t.commands = [] then ""
      else "\nCommands:\n" ++ String.join (t.commands.map fun c => "  " ++ c.1 ++ "\n")) ++
    "\nOptions:\n" ++ String.join (t.switches.map switchLine)

/-- What a run shows that ends before any command. -/
def Stop.outcome : Stop → Outcome
  | .help t => ⟨0, helpText t, ""⟩
  | .version t => ⟨0, t.title ++ " " ++ programVersion ++ "\n", ""⟩
  | .refused e => ⟨2, "", "error: " ++ e.message ++ "\n\nFor more information, try '--help'.\n"⟩

/-- Runs the program on the arguments of a command line. -/
def runProgram (env : Environment) (arguments : List String) : m Outcome :=
  match Invocation.read arguments with
  | .error stop => return stop.outcome
  | .ok i => i.run env

end RowQuery
