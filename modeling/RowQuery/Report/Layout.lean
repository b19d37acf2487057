import RowQuery.Decimal.Digits

/-!
# Lines, columns and colours

Reports are lists of lines. Within a line, columns are made by filling texts up with blanks to a
width, counted in characters; texts that are too long for their column are cut and end in three
points. Colours are escape sequences around a piece of a line, set on a text that has been filled
up already, so that they never count as width.
-/

namespace RowQuery.Report

/-- A text cut to a number of characters. One that is too long ends in three points. -/
def truncate (width : Nat) (s : List Char) : List Char :=
  if width < s.length then s.take (width - 3) ++ ['.', '.', '.'] else s

/-- A text filled up with blanks behind. -/
def padRight (width : Nat) (s : List Char) : List Char :=
  s ++ List.replicate (width - s.length) ' '

/-- A text filled up with blanks in front. -/
def padLeft (width : Nat) (s : List Char) : List Char :=
  List.replicate (width - s.length) ' ' ++ s

/-- A look of a text on a terminal. -/
inductive Style
  | dim
  | bold
  | red
  | green
  | yellow
deriving DecidableEq, Repr

namespace Style

/-- The sequence that begins a look. -/
def start : Style → List Char
  | dim => "\x1b[2m".toList
  | bold => "\x1b[1m".toList
  | red => "\x1b[31m".toList
  | green => "\x1b[32m".toList
  | yellow => "\x1b[33m".toList

/-- The sequence that ends a look. -/
def stop : Style → List Char
  | dim | bold => "\x1b[0m".toList
  | red | green | yellow => "\x1b[39m".toList

/-- A text with a look, if colours are on. -/
def paint (style : Style) (colour : Bool) (s : List Char) : List Char :=
  if colour then style.start ++ s ++ style.stop else s

end Style

/-- Lines as one text, each ended. -/
def unlines (ls : List (List Char)) : List Char :=
  ls.flatMap (· ++ ['\n'])

/-- Texts in columns of given widths, one blank apart; the last stands as it is. -/
def columns : List (Nat × List Char) → List Char → List Char
  | [], last => last
  | (width, s) :: rest, last => padRight width s ++ ' ' :: columns rest last

end RowQuery.Report
