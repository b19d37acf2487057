import RowQuery.Filter.Operator
import RowQuery.Text.Space
import RowQuery.Text.Utf8
import RowQuery.Text.Word

/-!
# The tokens of a filter

A filter is a run of clauses, each of which is one token:

    connector? field? separator ~? operator : value

Connector and separator are a colon or a bar, the field is a run of word characters, the operator
one of nine words. The value is a quoted text, in which a backslash escapes the next character, or
a bare run of characters that are no connector, quote, white space or backslash, or escaped. An
escape never covers a line break.

`Token.read?` finds the token that a text begins with. A connector is preferred to none, since
otherwise `:a:eq:1` would be read without its colon; every other part is settled by the text:
the field reaches as far as word characters do, an operator ends at its colon, and a bare value is
as long as it can be.

`scan` cuts a whole filter into tokens and *strays*, the characters where no token begins. A
stretch of strays that is more than white space is *skipped* input.
-/

namespace RowQuery

open Text (isWord isSpace byteLength)

/-- One clause as it is written, in its parts. A part that is absent is empty. -/
structure Token where
  /-- The mark in front of a field that joins it to the field before. -/
  connector : String
  /-- The field, empty if the clause continues the one before. -/
  field : String
  /-- The mark in front of the operator. -/
  separator : String
  /-- A tilde if the operator is negated. -/
  tilde : String
  /-- The word of the operator. -/
  operator : String
  /-- The operand, with its quotes. -/
  value : String
  /-- Where the clause begins, in bytes. -/
  position : Nat
deriving DecidableEq, Repr

namespace Token

/-- Whether the clause names a field. -/
def startsField (t : Token) : Bool :=
  t.field ≠ ""

/-- The clause as it is written. -/
def chars (t : Token) : List Char :=
  t.connector.toList ++ t.field.toList ++ t.separator.toList ++ t.tilde.toList ++
    t.operator.toList ++ ':' :: t.value.toList

/-! ## Values -/

/-- Takes the rest of a quoted text off the front, its closing quote included. -/
def takeQuoted (quote : Char) : List Char → Option (List Char)
  | [] => none
  | '\\' :: c :: s => if c = '\n' then none else (takeQuoted quote s).map ('\\' :: c :: ·)
  | c :: s =>
    if c = quote then some [c]
    else if c = '\\' then none
    else (takeQuoted quote s).map (c :: ·)

/-- Whether a character may stand for itself in a bare value. -/
def isBare (c : Char) : Bool :=
  c ≠ ':' && c ≠ '|' && c ≠ '\'' && c ≠ '"' && c ≠ '\\' && !isSpace c

/-- The longest bare value in front. -/
def takeBare : List Char → List Char
  | [] => []
  | '\\' :: c :: s => if c = '\n' then [] else '\\' :: c :: takeBare s
  | c :: s => if isBare c then c :: takeBare s else []

/-- The value in front, if there is one. -/
def takeValue? (s : List Char) : Option (List Char) :=
  match s with
  | '"' :: r => (takeQuoted '"' r).map ('"' :: ·)
  | '\'' :: r => (takeQuoted '\'' r).map ('\'' :: ·)
  | s => match takeBare s with
    | [] => none
    | v => some v

/-! ## Clauses -/

/-- What follows a word at the front of a text. -/
def dropWord? : List Char → List Char → Option (List Char)
  | [], s => some s
  | _ :: _, [] => none
  | w :: ws, c :: s => if w = c then dropWord? ws s else none

/-- The operator in front, up to its colon, and what follows. -/
def takeOperator? (s : List Char) : Option (Operator × List Char) :=
  Operator.all.findSome? fun op =>
    (dropWord? (op.keyword.toList ++ [':']) s).map fun r => (op, r)

/-- Whether a character is the mark of a connector. -/
def isMark (c : Char) : Bool :=
  c = ':' || c = '|'

/-- The token in front, after its connector has been taken. -/
def readAfter? (position : Nat) (connector : List Char) (s : List Char) : Option Token :=
  let field := s.takeWhile isWord
  match s.dropWhile isWord with
  | mark :: s =>
    if isMark mark then do
      let (tilde, s) := match s with
        | '~' :: r => (['~'], r)
        | r => ([], r)
      let (op, s) ← takeOperator? s
      let value ← takeValue? s
      return { connector := String.ofList connector, field := String.ofList field,
               separator := mark.toString, tilde := String.ofList tilde, operator := op.keyword,
               value := String.ofList value, position }
    else none
  | [] => none

/-- The token in front, if the text begins with one. -/
def read? (position : Nat) : List Char → Option Token
  | [] => none
  | c :: s =>
    if isMark c then readAfter? position [c] s <|> readAfter? position [] (c :: s)
    else readAfter? position [] (c :: s)

end Token

/-! ## Scanning -/

/-- A piece of a scanned filter. -/
inductive Piece
  /-- A clause. -/
  | token (t : Token)
  /-- Characters at which no clause begins, with the position of the first. -/
  | gap (position : Nat) (text : List Char)

namespace Piece

/-- The text of a piece. -/
def text : Piece → List Char
  | token t => t.chars
  | gap _ s => s

/-- Puts a stray character in front, into the gap that is there or a new one. -/
def consStray (position : Nat) (c : Char) : List Piece → List Piece
  | gap _ s :: ps => gap position (c :: s) :: ps
  | ps => gap position [c] :: ps

/-- The token of a piece. -/
def token? : Piece → Option Token
  | token t => some t
  | gap .. => none

end Piece

/-- The pieces of a text that begins at a position, when its first `skip` characters belong to a
    token that has been read. -/
def scanFrom (position : Nat) : Nat → List Char → List Piece
  | _, [] => []
  | skip + 1, c :: s => scanFrom (position + c.utf8Size) skip s
  | 0, c :: s =>
    match Token.read? position (c :: s) with
    | some t => .token t :: scanFrom (position + c.utf8Size) (t.chars.length - 1) s
    | none => Piece.consStray position c (scanFrom (position + c.utf8Size) 0 s)

/-- Input that is part of no clause. -/
structure Skipped where
  /-- The input, without white space at its ends. -/
  fragment : String
  /-- Where it begins, in bytes. -/
  position : Nat
deriving DecidableEq, Repr

/-- What is skipped of a piece: a gap that is more than white space. -/
def Piece.skipped? : Piece → Option Skipped
  | token _ => none
  | gap position s =>
    let fragment := Text.trim s
    if fragment = [] then none
    else some ⟨String.ofList fragment, position + byteLength (s.takeWhile isSpace)⟩

/-- What a scan finds in a filter. -/
structure Scan where
  /-- The clauses, in order. -/
  tokens : List Token
  /-- The input that is part of no clause, in order. -/
  skipped : List Skipped
deriving DecidableEq, Repr

/-- The pieces of a filter. -/
def pieces (s : String) : List Piece :=
  scanFrom 0 0 s.toList

/-- Cuts a filter into clauses and skipped input. -/
def scan (s : String) : Scan :=
  ⟨(pieces s).filterMap Piece.token?, (pieces s).filterMap Piece.skipped?⟩

end RowQuery
