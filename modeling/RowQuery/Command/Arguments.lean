import RowQuery.Decimal.Digits

/-!
# Arguments of the command line

The command line is a path of words through *topics*: the program, its commands and theirs. At
every topic options may stand, as `--name`, `--name value` or `--name=value`, or by a letter, where
letters may be joined and a value may be attached; a topic may also take an operand. After `--`
everything is an operand. The options of the program itself are known at every topic.

`Topic.read` sorts arguments into what is given at each topic on the path. It refuses what a topic
does not know, options without their value, values that do not suit, and options given twice at one
topic; it stops early where help or the version is asked for.

Why arguments are refused follows the program, and the words in which it is said stand in for those
of the library that reads its command line.
-/

namespace RowQuery

/-- What an option or an operand takes. -/
inductive Argument
  /-- Nothing: it is a flag. -/
  | nothing
  | text
  /-- A path, which is never empty. -/
  | path
  /-- An integer of 64 bits, with its sign. -/
  | integer
  /-- One of a few words. -/
  | word (choices : List String)
deriving DecidableEq, Repr

/-- An option of a topic. -/
structure Switch where
  name : String
  letter? : Option Char := none
  argument : Argument := .nothing
deriving DecidableEq, Repr

/-- Why arguments are refused. -/
inductive UsageError
  | unknownArgument (given : String)
  | unknownCommand (given : String)
  | missingValue (name : String)
  | unexpectedValue (name value : String)
  | invalidValue (name value : String)
  | repeated (name : String)
  | conflict (name other : String)
  | missing (name : String)
deriving DecidableEq, Repr

/-- A text for an error, in place of the library's own. -/
def UsageError.message : UsageError → String
  | unknownArgument given => "unexpected argument '" ++ given ++ "'"
  | unknownCommand given => "unrecognized subcommand '" ++ given ++ "'"
  | missingValue name => "a value is required for '" ++ name ++ "'"
  | unexpectedValue name value => "unexpected value '" ++ value ++ "' for '" ++ name ++ "'"
  | invalidValue name value => "invalid value '" ++ value ++ "' for '" ++ name ++ "'"
  | repeated name => "the argument '" ++ name ++ "' cannot be used multiple times"
  | conflict name other =>
    "the argument '" ++ name ++ "' cannot be used with '" ++ other ++ "'"
  | missing name => "the argument '" ++ name ++ "' was not provided"

/-- The topics of the command line. -/
inductive Topic
  | program
  | tokens
  | parse
  | compile
  | query
  | config
  | configShow
  | configPath
  | configInit
  | completions
deriving DecidableEq, Repr

/-- Why reading arguments ends without a command. -/
inductive Stop
  /-- Help on a topic is asked for. -/
  | help (t : Topic)
  /-- The version is asked for. -/
  | version (t : Topic)
  | refused (e : UsageError)
deriving DecidableEq, Repr

/-- What is given at a topic: options by name with their values, and operands. -/
structure Given where
  options : List (String × String) := []
  operands : List String := []
deriving DecidableEq, Repr

namespace Argument

/-- Whether a text is a value that is expected. -/
def accepts (a : Argument) (value : String) : Bool :=
  match a with
  | nothing | text => true
  | path => value ≠ ""
  | integer => (Decimal.readInt64? value.toList).isSome
  | word choices => value ∈ choices

end Argument

namespace Topic

/-- The options of the program itself. -/
def globalSwitches : List Switch :=
  [{ name := "verbose", letter? := some 'v' }, { name := "quiet", letter? := some 'q' },
    { name := "json" }, { name := "no-color" }, { name := "strict" }]

/-- The options of a topic alone. -/
def ownSwitches : Topic → List Switch
  | compile =>
    [{ name := "schema", letter? := some 's', argument := .path },
      { name := "placeholders", argument := .word ["pg", "qmark"] }]
  | query =>
    [{ name := "data", letter? := some 'd', argument := .path },
      { name := "schema", letter? := some 's', argument := .path },
      { name := "url", argument := .text },
      { name := "filter", letter? := some 'f', argument := .text },
      { name := "offset", argument := .integer },
      { name := "limit", letter? := some 'l', argument := .integer },
      { name := "sort", argument := .text }, { name := "asc" }, { name := "links" }]
  | configInit => [{ name := "force" }]
  | _ => []

/-- The options of a topic. -/
def switches (t : Topic) : List Switch :=
  t.ownSwitches ++ globalSwitches

/-- The words for shells. -/
def shells : List String :=
  ["bash", "zsh", "fish", "powershell"]

/-- The operand of a topic, if it takes one. -/
def operand? : Topic → Option Argument
  | tokens | parse | compile => some .text
  | completions => some (.word shells)
  | _ => none

/-- The words that lead from a topic to others. -/
def commands : Topic → List (String × Topic)
  | program =>
    [("tokens", tokens), ("t", tokens), ("parse", parse), ("p", parse), ("compile", compile),
      ("c", compile), ("query", query), ("q", query), ("config", config),
      ("completions", completions)]
  | config => [("show", configShow), ("path", configPath), ("init", configInit)]
  | _ => []

/-- The name of a topic. -/
def title : Topic → String
  | program => "qf"
  | tokens => "qf-tokens"
  | parse => "qf-parse"
  | compile => "qf-compile"
  | query => "qf-query"
  | config => "qf-config"
  | configShow => "qf-config-show"
  | configPath => "qf-config-path"
  | configInit => "qf-config-init"
  | completions => "qf-completions"

/-- The option of a topic that has a name. -/
def switchNamed? (t : Topic) (name : String) : Option Switch :=
  t.switches.find? fun o => o.name = name

/-- The option of a topic that has a letter. -/
def switchLettered? (t : Topic) (letter : Char) : Option Switch :=
  t.switches.find? fun o => o.letter? = some letter

end Topic

namespace Given

/-- Adds an option with its value. -/
def addOption (g : Given) (o : Switch) (value : String) : Except Stop Given :=
  if (g.options.lookup o.name).isSome then .error (.refused (.repeated ("--" ++ o.name)))
  else if !o.argument.accepts value then
    .error (.refused (.invalidValue ("--" ++ o.name) value))
  else .ok { g with options := g.options ++ [(o.name, value)] }

/-- Adds an operand. -/
def addOperand (g : Given) (t : Topic) (value : String) : Except Stop Given :=
  match t.operand?, g.operands with
  | some a, [] =>
    if a.accepts value then .ok { g with operands := [value] }
    else .error (.refused (.invalidValue t.title value))
  | _, _ =>
    if t.commands = [] then .error (.refused (.unknownArgument value))
    else .error (.refused (.unknownCommand value))

/-- Adds a flag or begins an option that takes a value, which is still to come. -/
def beginOption (g : Given) (o : Switch) : Except Stop (Given × Option Switch) :=
  if o.argument = .nothing then (g.addOption o "").map (·, none) else .ok (g, some o)

/-- Adds what an argument gives that stands behind two dashes: a name, perhaps with a value behind
    an equals sign. -/
def addNamed (g : Given) (t : Topic) (s : List Char) : Except Stop (Given × Option Switch) :=
  let name := String.ofList (s.takeWhile (· ≠ '='))
  let value? := match s.dropWhile (· ≠ '=') with
    | _ :: value => some (String.ofList value)
    | [] => none
  match t.switchNamed? name, value? with
  | some o, none => g.beginOption o
  | some o, some value =>
    if o.argument = .nothing then .error (.refused (.unexpectedValue ("--" ++ name) value))
    else (g.addOption o value).map (·, none)
  | none, none =>
    if name = "help" then .error (.help t)
    else if name = "version" then .error (.version t)
    else .error (.refused (.unknownArgument ("--" ++ name)))
  | none, some value =>
    if name = "help" ∨ name = "version" then
      .error (.refused (.unexpectedValue ("--" ++ name) value))
    else .error (.refused (.unknownArgument ("--" ++ name)))

/-- Adds what an argument gives that stands behind one dash: letters of flags, and perhaps that of
    an option with a value. What follows that letter is its value, an equals sign apart. -/
def addLetters (g : Given) (t : Topic) : List Char → Except Stop (Given × Option Switch)
  | [] => .ok (g, none)
  | c :: s =>
    match t.switchLettered? c with
    | some o =>
      if o.argument = .nothing then do
        let g ← g.addOption o ""
        g.addLetters t s
      else match s with
        | [] => .ok (g, some o)
        | '=' :: value => (g.addOption o (String.ofList value)).map (·, none)
        | value => (g.addOption o (String.ofList value)).map (·, none)
    | none =>
      if c = 'h' then .error (.help t)
      else if c = 'V' then .error (.version t)
      else .error (.refused (.unknownArgument ("-" ++ c.toString)))

end Given

/-- Whether digits follow with at most one point among them, not in front, and perhaps an
    exponent: what stands behind a minus sign may then be a number, and no letters of options. -/
def looksNumeric (s : List Char) : Bool :=
  let mantissa := s.takeWhile (· ≠ 'e')
  let digitsOnly := (mantissa.eraseP (· = '.')).all Char.isDigit
  let startsWell := mantissa.head? ≠ some '.'
  match s.dropWhile (· ≠ 'e') with
  | [] => digitsOnly && startsWell
  | _ :: exponent =>
    digitsOnly && startsWell && mantissa ≠ [] && exponent ≠ [] && exponent.all Char.isDigit

/-- Whether an argument may be the value of an option that waits for one. -/
def Switch.admits (o : Switch) (argument : String) : Bool :=
  match argument.toList with
  | ['-'] => true
  | '-' :: s => o.argument = .integer && looksNumeric s
  | _ => true

namespace Topic

/-- Follows words to the topic on which help is asked for. -/
def helpOn (t : Topic) : List String → Stop
  | [] => .help t
  | word :: words => match t.commands.lookup word with
    | some u => u.helpOn words
    | none => .refused (.unknownCommand word)

/-- Sorts arguments from a topic on. An option may be waiting for its value. The result begins with
    the last topic on the path. -/
def read (t : Topic) (waiting? : Option Switch) (g : Given) (above : List (Topic × Given)) :
    List String → Except Stop (List (Topic × Given))
  | [] => match waiting? with
    | some o => .error (.refused (.missingValue ("--" ++ o.name)))
    | none => .ok ((t, g) :: above)
  | a :: rest =>
    match waiting? with
    | some o =>
      if o.admits a then do
        let g ← g.addOption o a
        t.read none g above rest
      else .error (.refused (.missingValue ("--" ++ o.name)))
    | none =>
      match t.commands.lookup a with
      | some u => u.read none {} ((t, g) :: above) rest
      | none =>
        if a = "help" ∧ t.commands ≠ [] then .error (t.helpOn rest)
        else match a.toList with
          | ['-', '-'] => do
            let g ← rest.foldlM (fun g operand => g.addOperand t operand) g
            return (t, g) :: above
          | '-' :: '-' :: s => do
            let (g, waiting?) ← g.addNamed t s
            t.read waiting? g above rest
          | ['-'] => do
            let g ← g.addOperand t a
            t.read none g above rest
          | '-' :: s => do
            let (g, waiting?) ← g.addLetters t s
            t.read waiting? g above rest
          | _ => do
            let g ← g.addOperand t a
            t.read none g above rest

end Topic

end RowQuery
