import RowQuery.Command.Run

/-!
# The program on a machine

Here the program meets the files, the environment and the streams of a machine. Nothing is decided:
files are reached through `Files`, and the outcome of a run is written out as it is.
-/

namespace RowQuery

/-- The error of a file that the system reports. -/
def FileError.ofSystem : IO.Error → FileError
  | .noFileOrDirectory .. | .noSuchThing .. => .notFound
  | .alreadyExists .. => .alreadyExists
  | .inappropriateType _ code _ => if code = 21 then .isDirectory else .notDirectory
  | e@(.invalidArgument _ code _) => if code = 36 then .nameTooLong else .other (toString e)
  | e => .other (toString e)

/-- The result of an action on the files of the machine. -/
def attempt {α : Type} (action : IO α) : IO (Except FileError α) := do
  try
    return .ok (← action)
  catch e =>
    return .error (.ofSystem e)

instance : Files IO where
  isThere path := return (← attempt (IO.FS.realPath path)).isOk
  read path := attempt (IO.FS.readFile path)
  write path content := attempt (IO.FS.writeFile path content)
  makeDirectories path := if path = "" then return .ok () else attempt (IO.FS.createDirAll path)

/-- The part of the environment of the machine that matters. -/
def systemEnvironment : IO Environment := do
  return {
    config? := ← IO.getEnv "QF_CONFIG"
    configHome? := ← IO.getEnv "XDG_CONFIG_HOME"
    home? := ← IO.getEnv "HOME" }

end RowQuery

/-- Runs the program. -/
def main (arguments : List String) : IO UInt32 := do
  let outcome ← RowQuery.runProgram (← RowQuery.systemEnvironment) arguments
  (← IO.getStdout).putStr outcome.output
  (← IO.getStderr).putStr outcome.errors
  return outcome.exit.toUInt32
