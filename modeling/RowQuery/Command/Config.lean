import RowQuery.Command.Action
import RowQuery.Command.Invocation
import RowQuery.Files.Path
import RowQuery.Report.Settings

/-!
# The configuration

Where the configuration file is follows from the environment: a variable names the file itself, or
another the directory for configurations, or else it lies in the home directory. A file that is not
there counts as one without settings.
-/

namespace RowQuery

/-- The part of the environment that matters. -/
structure Environment where
  /-- The configuration file. -/
  config? : Option String := none
  /-- The directory for configurations. -/
  configHome? : Option String := none
  /-- The home directory. -/
  home? : Option String := none
deriving DecidableEq, Repr

/-- The path of the configuration file. -/
def Environment.configPath (env : Environment) : Except ConfigError String :=
  let inDirectory (directory : String) := Path.join (Path.join directory "qf") "config.toml"
  match env.config?, env.configHome?, env.home? with
  | some path, _, _ => .ok path
  | none, some directory, _ => .ok (inDirectory directory)
  | none, none, some home =>
    if home = "" then .error .noPlace else .ok (inDirectory (Path.join home ".config"))
  | none, none, none => .error .noPlace

/-- How the commands run: the options of the program together with the settings. -/
structure Context where
  json : Bool
  colour : Bool
  quiet : Bool
  verbose : Bool
  mode : Mode
  page : PageSettings

namespace Context

/-- Options and settings together. Options prevail. -/
def ofSettings (options : Options) (settings : Settings) : Context where
  json := options.json
  colour := !options.noColour && settings.colour
  quiet := options.quiet
  verbose := options.verbose
  mode := if options.strict || settings.strict then .strict else .lenient
  page := settings.page

variable {m : Type → Type} [Monad m]

/-- Shows a result: as JSON if that is asked for, and otherwise as text, unless the run is to be
    quiet. -/
def display (ctx : Context) (json : Json) (text : List Char) : Action m Unit :=
  if ctx.json then .print (json.pretty ++ "\n")
  else if ctx.quiet then pure ()
  else .print (String.ofList text)

/-- Makes a remark, if remarks are asked for. -/
def remark (ctx : Context) (text : String) : Action m Unit :=
  if ctx.verbose then .remark (text ++ "\n") else pure ()

end Context

/-- The settings that the text of a configuration file makes. -/
def readSettings (text : String) : Except ConfigError Settings :=
  match Settings.ofText? text with
  | some settings => .ok settings
  | none => .error .malformed

variable {m : Type → Type} [Monad m] [Files m]

/-- Loads the settings from the configuration file. -/
def loadSettings (path : String) : m (Except ConfigError Settings) := do
  if ← Files.isThere path then
    match ← Files.read path with
    | .error e => return .error (.unreadable e)
    | .ok text => return readSettings text
  else return .ok {}

/-- Writes the configuration file to begin with, with the directory it lies in. -/
def writeSettings (path : String) : m (Except ConfigError Unit) := do
  match Path.parent? path with
  | some directory =>
    if let .error e ← Files.makeDirectories directory then return .error (.noDirectory e)
  | none => pure ()
  match ← Files.write path Settings.initialText with
  | .error e => return .error (.unwritable e)
  | .ok _ => return .ok ()

/-- Goes on with a result, or fails because of the configuration. -/
def Action.ofConfig {α : Type} (r : Except ConfigError α) : Action m α :=
  .ofResult (r.mapError .config)

/-- Shows the settings in force. -/
def showSettings (ctx : Context) (path : String) : Action m Unit := do
  let settings ← .ofConfig (← .files (loadSettings path))
  let isThere ← .files (Files.isThere path)
  ctx.display (Report.settingsJson path isThere settings)
    (Report.settingsText ctx.colour path isThere settings)

/-- Shows where the configuration file is. This is shown even if the run is to be quiet. -/
def showPath (ctx : Context) (path : String) : Action m Unit := do
  let isThere ← .files (Files.isThere path)
  .print (if ctx.json then
    (Json.object [("exists", .bool isThere), ("path", .string path)]).pretty ++ "\n"
  else path ++ "\n")

/-- Shows that the configuration file has been written, or left as it was. -/
def showInitialized (ctx : Context) (path : String) (created : Bool) : Action m Unit :=
  let status := if created then "created" else "exists"
  let text := if created then "Created default config at: " ++ path ++ "\n"
    else "Config already exists at: " ++ path ++ " (use --force to overwrite)\n"
  ctx.display (.object [("path", .string path), ("status", .string status)]) text.toList

/-- Writes the configuration file to begin with, unless one is there that is to be kept. -/
def initSettings (ctx : Context) (path : String) (force : Bool) : Action m Unit := do
  if (← .files (Files.isThere path)) && !force then showInitialized ctx path false
  else
    .ofConfig (← .files (writeSettings path))
    showInitialized ctx path true

/-- Does what is asked about the configuration. -/
def runConfig (ctx : Context) (env : Environment) (action : ConfigAction) : Action m Unit := do
  let path ← .ofConfig env.configPath
  match action with
  | .show => showSettings ctx path
  | .path => showPath ctx path
  | .init force => initSettings ctx path force

end RowQuery
