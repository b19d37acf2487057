import RowQuery.Command.Error

/-!
# Actions

A command is an `Action`: it uses files, writes to the streams of its run as it goes, and may fail
on the way. What it has written by then stays written, and the failure is reported behind it.
-/

namespace RowQuery

/-- What has been written to the streams of a run. -/
structure Streams where
  /-- Standard output. -/
  output : String := ""
  /-- Standard error. -/
  errors : String := ""

/-- A part of a run that uses files, writes to the streams and may fail. -/
abbrev Action (m : Type → Type) :=
  ExceptT Failure (StateT Streams m)

namespace Action

variable {m : Type → Type} [Monad m] {α : Type}

/-- Writes to standard output. -/
def print (text : String) : Action m Unit :=
  modify fun s => { s with output := s.output ++ text }

/-- Writes to standard error. -/
def remark (text : String) : Action m Unit :=
  modify fun s => { s with errors := s.errors ++ text }

/-- Uses files. -/
def files (x : m α) : Action m α :=
  ExceptT.lift (StateT.lift x)

/-- Goes on with a result, or fails. -/
def ofExcept (r : Except Failure α) : Action m α :=
  ExceptT.mk (pure r)

/-- Goes on with a result, or fails with an error. -/
def ofResult (r : Except CommandError α) : Action m α :=
  ofExcept (r.mapError .error)

/-- What a run shows that consists of an action. -/
def outcome (json : Bool) (x : Action m Unit) : m Outcome := do
  match ← x.run.run {} with
  | (.ok (), s) => return ⟨0, s.output, s.errors⟩
  | (.error f, s) => return ⟨f.exit, s.output, s.errors ++ f.report json⟩

end Action

end RowQuery
