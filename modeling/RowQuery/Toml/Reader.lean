import RowQuery.Toml.Document
import RowQuery.Toml.Scalar

/-!
# TOML from text

`Toml.read?` reads a document of TOML 1.0: one statement a line, comments behind number signs,
strings with and without escapes and across lines, arrays across lines, inline tables within a
line. Values nested eighty levels deep, and keys of eighty parts, are refused.
-/

namespace RowQuery.Toml

/-- The text without the blanks in front. -/
def skipBlanks (s : List Char) : List Char :=
  s.dropWhile isBlank

/-! ## Keys -/

/-- Whether a character may stand in a bare key. -/
def isKeyChar (c : Char) : Bool :=
  c.isAlphanum || c = '_' || c = '-'

/-- Takes one part of a key off the front. -/
def takeName : List Char → Option (String × List Char)
  | '"' :: s => takeLine '"' s
  | '\'' :: s => takeLine '\'' s
  | s =>
    let run := s.takeWhile isKeyChar
    if run = [] then none else some (String.ofList run, s.drop run.length)

/-- Takes the parts of a key off the front, with points between them: at most so many. -/
def takeNames : Nat → List Char → Option (List String × List Char)
  | 0, _ => none
  | most + 1, s => do
    let (name, s) ← takeName (skipBlanks s)
    match skipBlanks s with
    | '.' :: s =>
      let (names, s) ← takeNames most s
      return (name :: names, s)
    | s => return ([name], s)

/-- How deep values may be nested, and how many parts a key may have. -/
def maxDepth : Nat := 79

/-- Takes a key off the front, with the blanks around it. -/
def takeKey (s : List Char) : Option (Key × List Char) := do
  let (names, s) ← takeNames maxDepth s
  return (⟨names.dropLast, ← names.getLast?⟩, s)

/-! ## Values -/

/-- The text without blanks, line ends and comments in front, if it begins in a comment or not. -/
def skipGap : (comment : Bool) → List Char → List Char
  | _, [] => []
  | comment, c :: s =>
    if c = '\n' then skipGap false s
    else if c = '\r' ∧ s.head? = some '\n' then skipGap comment s
    else if (comment && isPlain c) || isBlank c then skipGap comment s
    else if c = '#' then skipGap true s
    else c :: s

/-- Takes the items of an array off the front, up to the closing bracket. A comma may follow the
    last. -/
def takeItems (item : List Char → Option (Toml × List Char)) :
    Nat → List Char → Option (List Toml × List Char)
  | 0, _ => none
  | fuel + 1, s =>
    match skipGap false s with
    | ']' :: s => some ([], s)
    | s => do
      let (v, s) ← item s
      match skipGap false s with
      | ',' :: s =>
        let (vs, s) ← takeItems item fuel s
        return (v :: vs, s)
      | ']' :: s => return ([v], s)
      | _ => none

/-- Takes a key and its value off the front, given how to take a value. -/
def takeAssignment (value : List Char → Option (Toml × List Char)) (s : List Char) :
    Option (Statement × List Char) := do
  let (key, s) ← takeKey s
  match s with
  | '=' :: s =>
    let (v, s) ← value (skipBlanks s)
    return (.assign key v, s)
  | _ => none

/-- Takes the entries of an inline table off the front, up to the closing brace. No comma follows
    the last. -/
def takeEntries (value : List Char → Option (Toml × List Char)) :
    Nat → List Char → Option (List Statement × List Char)
  | 0, _ => none
  | fuel + 1, s => do
    let (entry, s) ← takeAssignment value s
    match skipBlanks s with
    | ',' :: s =>
      let (entries, s) ← takeEntries value fuel s
      return (entry :: entries, s)
    | '\x7d' :: s => return ([entry], s)
    | _ => none

/-- Takes an inline table off the front, behind its opening brace. -/
def takeInline (value : List Char → Option (Toml × List Char)) (s : List Char) :
    Option (Toml × List Char) :=
  match skipBlanks s with
  | '\x7d' :: s => some (.table [], s)
  | s => do
    let (entries, s) ← takeEntries value (s.length + 1) s
    return (← ofStatements entries, s)

/-- Takes a value off the front, nested at most so many levels deep. -/
def takeValue : Nat → List Char → Option (Toml × List Char)
  | _, '"' :: s => (takeString ('"' :: s)).map fun (t, r) => (.string t, r)
  | _, '\'' :: s => (takeString ('\'' :: s)).map fun (t, r) => (.string t, r)
  | depth + 1, '[' :: s =>
    (takeItems (takeValue depth) (s.length + 1) s).map fun (vs, r) => (.array vs, r)
  | depth + 1, '\x7b' :: s => takeInline (takeValue depth) s
  | _, s => takeScalar s

/-! ## Documents -/

/-- What follows the end of a line at the front, which may have blanks and a comment before it. -/
def dropLineEnd (s : List Char) : Option (List Char) :=
  let s := skipBlanks s
  let s := match s with
    | '#' :: r => r.dropWhile isPlain
    | s => s
  match s with
  | [] => some []
  | s => takeNewline s

/-- Takes a statement off the front. -/
def takeStatement : List Char → Option (Statement × List Char)
  | '[' :: '[' :: s => do
    match ← takeKey s with
    | (key, ']' :: ']' :: s) => return (.element key, s)
    | _ => none
  | '[' :: s => do
    match ← takeKey s with
    | (key, ']' :: s) => return (.table key, s)
    | _ => none
  | s => takeAssignment (takeValue maxDepth) s

/-- The statements of a text. Every line takes a character at least, so the length of the text
    bounds their number. -/
def readStatements : Nat → List Char → Option (List Statement)
  | 0, _ => none
  | fuel + 1, s =>
    match skipBlanks s with
    | [] => some []
    | c :: s =>
      if c = '#' ∨ c = '\n' ∨ c = '\r' then do readStatements fuel (← dropLineEnd (c :: s))
      else do
        let (statement, s) ← takeStatement (c :: s)
        return statement :: (← readStatements fuel (← dropLineEnd s))

/-- Reads the characters of a document. A byte order mark may stand in front. -/
def readChars? (s : List Char) : Option Toml := do
  let s := match s with
    | '\uFEFF' :: r => r
    | r => r
  ofStatements (← readStatements (s.length + 1) s)

/-- Reads a document. -/
def read? (s : String) : Option Toml :=
  readChars? s.toList

end RowQuery.Toml
