import RowQuery.Files.Basic
import RowQuery.Json.Writer
import RowQuery.Page.Source

/-!
# How a run ends

A run that fails has one cause, a `CommandError`, which decides the text, the code and the exit
status, or it crashes. An `Outcome` is all that a run shows: its exit status and what it writes to
either stream.

What is wrong with a malformed file is said by the library that reads its language. These details
are left out: "not a table of column types", "not a document of settings" and "not a JSON text"
stand in for them.
-/

namespace RowQuery

/-- Why a file of data or of a schema cannot be used. -/
inductive InputError
  | malformedSchema (path : String)
  | emptySchema (path : String)
  | noArray (path : String)
  /-- An item of the data is no object. -/
  | noObject (path : String) (index : Nat) (item : Json)

/-- Why the configuration cannot be used or written. -/
inductive ConfigError
  /-- It is not known where the configuration is. -/
  | noPlace
  | unreadable (e : FileError)
  | malformed
  | noDirectory (e : FileError)
  | unwritable (e : FileError)
deriving DecidableEq, Repr

/-- Why a run fails. -/
inductive CommandError
  | filter (e : FilterError)
  | page (e : PageError FilterError)
  | input (e : InputError)
  | config (e : ConfigError)
  | file (e : FileError)
  /-- The data are no JSON. -/
  | malformedData

/-- The text of an error. -/
def InputError.message : InputError → String
  | malformedSchema path => "Failed to parse schema " ++ path ++ ": not a table of column types"
  | emptySchema path => "Schema " ++ path ++ " declares no columns"
  | noArray path => path ++ " must contain a JSON array of objects"
  | noObject path index item =>
    path ++ ": element " ++ FilterError.count index ++ " is not an object: " ++ item.compact

/-- The text of an error. -/
def ConfigError.message : ConfigError → String
  | noPlace => "Could not determine config directory"
  | unreadable e => "Failed to read config: " ++ e.message
  | malformed => "Failed to parse config: not a document of settings"
  | noDirectory e => "Failed to create config directory: " ++ e.message
  | unwritable e => "Failed to create config file: " ++ e.message

namespace CommandError

/-- The text of an error. -/
def message : CommandError → String
  | filter e => "filter error: " ++ e.message
  | page e => "pagination error: " ++ e.message FilterError.message
  | input e => "invalid input: " ++ e.message
  | config e => "configuration error: " ++ e.message
  | file e => "I/O error: " ++ e.message
  | malformedData => "serialization error: not a JSON text"

/-- The code of an error. -/
def code : CommandError → String
  | filter _ | page (.filter _) => "FILTER_ERROR"
  | page (.source _) => "QUERY_ERROR"
  | page (.request _) => "PAGINATION_ERROR"
  | input _ => "INPUT_ERROR"
  | config _ => "CONFIG_ERROR"
  | file _ => "IO_ERROR"
  | malformedData => "JSON_ERROR"

/-- The exit status of a run that fails. -/
def exit : CommandError → Nat
  | filter _ | page (.filter _) | page (.source _) => 1
  | page (.request _) => 2
  | file _ => 3
  | input _ | malformedData => 4
  | config _ => 5

/-- The error as JSON. -/
def toJson (e : CommandError) : Json :=
  .object [("error", .object [("code", .string e.code), ("message", .string e.message)])]

/-- What a run that fails reports. -/
def report (json : Bool) (e : CommandError) : String :=
  if json then e.toJson.pretty ++ "\n" else "Error: " ++ e.message ++ "\n"

end CommandError

/-- What a run shows. -/
structure Outcome where
  /-- The exit status. -/
  exit : Nat
  /-- What is written to standard output. -/
  output : String
  /-- What is written to standard error. -/
  errors : String
deriving DecidableEq, Repr

/-- How a command fails. -/
inductive Failure
  | error (e : CommandError)
  /-- It crashes. The report of that does not depend on how errors are shown. -/
  | crash (message : String)

namespace Failure

/-- The exit status of a run that fails so. -/
def exit : Failure → Nat
  | error e => e.exit
  | crash _ => 101

/-- What a run reports that fails so. The place in the program, which the report of a crash names as
    well, is left out. -/
def report (json : Bool) : Failure → String
  | error e => e.report json
  | crash message => message ++ "\n"

end Failure

end RowQuery
