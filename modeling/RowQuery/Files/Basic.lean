/-!
# Access to files

The program reads a few files and writes one. What it asks of a file system is the class `Files`,
so that it runs on the files of the machine as well as on a tree of files in memory.
-/

namespace RowQuery

/-- Why a file cannot be used. -/
inductive FileError
  | notFound
  | alreadyExists
  | notDirectory
  | isDirectory
  | nameTooLong
  /-- Anything else, in the system's words. -/
  | other (text : String)
deriving DecidableEq, Repr

/-- The text of an error, with the number by which the system knows it. -/
def FileError.message : FileError → String
  | notFound => "No such file or directory (os error 2)"
  | alreadyExists => "File exists (os error 17)"
  | notDirectory => "Not a directory (os error 20)"
  | isDirectory => "Is a directory (os error 21)"
  | nameTooLong => "File name too long (os error 36)"
  | other text => text

/-- A monad with access to files by their paths. -/
class Files (m : Type → Type) where
  /-- Whether there is a file or a directory. -/
  isThere : String → m Bool
  /-- The content of a file. -/
  read : String → m (Except FileError String)
  /-- Gives a file a content. A file that is not there is created. -/
  write : String → String → m (Except FileError Unit)
  /-- Makes a directory, with all that are missing on the way to it. -/
  makeDirectories : String → m (Except FileError Unit)

end RowQuery
