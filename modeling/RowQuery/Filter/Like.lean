import RowQuery.Text.Utf8

/-!
# Patterns

The pattern of a `like` comparison is a text in which `%` stands for any run of characters, `_` for
any one character, and a backslash makes the character behind it stand for itself. A backslash at
the very end stands for nothing. A pattern matches a text as a whole.

Patterns are bounded. A pattern stands for two automata that read the bytes of a text, one from its
start and one from its end, and each of them has to fit into ten mebibytes. A text whose pattern
does not fit is no pattern (`Pattern.read?`).

Whether a pattern matches a text is found without backtracking. For each end of a pattern, from the
empty one to the pattern itself, a *row* says which ends of the text it matches; each row follows
from the one before, and the first entry of the last row is the answer.
-/

namespace RowQuery

namespace Like

/-- A part of a pattern. -/
inductive Item
  /-- Any run of characters, the empty one too. -/
  | run
  /-- Any one character. -/
  | one
  /-- One given character. -/
  | char (c : Char)
deriving DecidableEq, Repr

/-- A pattern, in its parts. -/
abbrev Pattern := List Item

/-- The pattern that a text stands for. -/
def Pattern.ofChars : List Char → Pattern
  | [] => []
  | ['\\'] => []
  | '\\' :: c :: s => .char c :: Pattern.ofChars s
  | c :: s =>
    (if c = '%' then .run else if c = '_' then .one else .char c) :: Pattern.ofChars s

/-! ## Bounds -/

/-- The bytes that a state of an automaton takes, apart from its branches. -/
def stateSize : Nat := 32

/-- How an automaton reads a text. -/
structure Reading where
  /-- The bytes of the states around those of the items: for the start, the ends of the text and
      the match. -/
  frame : Nat
  /-- The bytes of the states that read any one character. -/
  one : Nat

/-- Reading from the start. Two more states mark where the match begins and where it ends. The nine
    forms of a character, which differ by its first byte, branch off from one state and meet in
    another; they share the seven states that read their later bytes. A branch with its byte range
    takes eight bytes. -/
def forwards : Reading where
  frame := 6 * stateSize
  one := 9 * stateSize + (9 + 7) * 8

/-- Reading from the end. The nine forms of a character branch off and meet as well, but share
    nothing, as they differ by the byte that is read last. They have 27 bytes in all. A branch takes
    four bytes. -/
def backwards : Reading where
  frame := 4 * stateSize
  one := (27 + 2) * stateSize + 9 * 4

/-- The bytes that an item takes. A run is a state with two branches, into any one character and
    out of the run. -/
def Item.size (r : Reading) : Item → Nat
  | run => r.one + stateSize + 2 * 4
  | one => r.one
  | char c => (Text.bytesOf c).length * stateSize

/-- The bytes that the automaton of a pattern takes. -/
def Pattern.size (r : Reading) (p : Pattern) : Nat :=
  p.foldl (fun n i => n + i.size r) r.frame

/-- The bytes that an automaton may take. -/
def maxSize : Nat := 10 * 1024 * 1024

/-- Whether both automata of a pattern fit. -/
def Pattern.fits (p : Pattern) : Bool :=
  p.size forwards ≤ maxSize && p.size backwards ≤ maxSize

/-- The pattern that a text stands for, if it fits. -/
def Pattern.read? (s : List Char) : Option Pattern :=
  let p := Pattern.ofChars s
  if p.fits then some p else none

/-! ## Matching -/

/-- For each end of a list, whether any entry in it holds. -/
def anyFrom : List Bool → List Bool
  | [] => []
  | b :: bs =>
    match anyFrom bs with
    | [] => [b]
    | r :: rs => (b || r) :: r :: rs

/-- The row of an item in front of a pattern, given the text and the row of the pattern. -/
def Item.row (s : List Char) (below : List Bool) : Item → List Bool
  | run => anyFrom below
  | one => below.drop 1 ++ [false]
  | char c => List.zipWith (fun x b => x == c && b) s (below.drop 1) ++ [false]

/-- For each end of the text, from the text itself to the empty one, whether the pattern matches
    it. -/
def Pattern.row (s : List Char) : Pattern → List Bool
  | [] => List.replicate s.length false ++ [true]
  | i :: p => i.row s (Pattern.row s p)

/-- Whether the pattern matches the text. -/
def Pattern.accepts (p : Pattern) (s : List Char) : Bool :=
  (Pattern.row s p).headD false

end Like

end RowQuery
