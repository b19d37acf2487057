import RowQuery.Text.Split

/-!
# Paths

A path is a text: names with slashes between them, from the root if it begins with a slash and from
the working directory otherwise.
-/

namespace RowQuery.Path

/-- The names in a path and the marks among them, as they stand. -/
def steps (path : String) : List String :=
  (Text.splitAll '/' path.toList).map String.ofList

/-- Whether a path begins at the root. -/
def isAbsolute (path : String) : Bool :=
  path.toList.head? = some '/'

/-- The path of a name in a directory. -/
def join (directory name : String) : String :=
  if directory = "" then name
  else if directory.toList.getLast? = some '/' then directory ++ name
  else directory ++ "/" ++ name

/-- Whether a step leads nowhere: an empty one or the mark for "here". -/
def isIdle (step : String) : Bool :=
  step = "" || step = "."

/-- The path of its first step and the others. A path from the root has an empty first step. -/
def ofSteps (first : String) (others : List String) : String :=
  if first = "" ∧ others = [] then "/" else String.intercalate "/" (first :: others)

/-- The directories above a first step and others, which come in reverse: each as the beginning of
    the path that ends with a step that leads on. The root and the working directory are left out,
    unless the first step names the latter. -/
def directories (first : String) : List String → List String
  | [] => if first = "" then [] else [first]
  | step :: above =>
    if isIdle step then directories first above
    else ofSteps first (step :: above).reverse :: directories first above

/-- The directory that a path leads to, if it is neither the root nor the working directory, and
    those above it, from the last on. -/
def chain (path : String) : List String :=
  match steps path with
  | [] => []
  | first :: others => directories first others.reverse

/-- The directory that a path lies in: the beginning of the path before its last step that leads
    on. It is empty for the working directory, and there is none if the path leads nowhere. -/
def parent? (path : String) : Option String :=
  match steps path with
  | [] => none
  | first :: others =>
    match others.reverse.dropWhile isIdle with
    | [] => if first = "" then none else some ""
    | _ :: above => some (ofSteps first (above.dropWhile isIdle).reverse)

end RowQuery.Path
