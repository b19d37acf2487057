import RowQuery.Decimal.Notation
import RowQuery.Json.Basic

/-!
# JSON as text

Two ways to write a value: `compact`, without any blank, and `pretty`, with every member and item
on a line of its own, indented by two blanks for each level, and a blank after each colon. In both
a string escapes the quote, the backslash and the control characters, and nothing else; a float
that is no number or infinite is written `null`.
-/

namespace RowQuery.Json

/-- A hexadecimal digit. -/
def hexDigit (n : Nat) : Char :=
  Nat.digitChar n

/-- How a character is written inside a string. -/
def escapeChar (c : Char) : List Char :=
  match c with
  | '"' => ['\\', '"']
  | '\\' => ['\\', '\\']
  | '\n' => ['\\', 'n']
  | '\r' => ['\\', 'r']
  | '\t' => ['\\', 't']
  | '\x08' => ['\\', 'b']
  | '\x0c' => ['\\', 'f']
  | c =>
    if c.toNat < 0x20 then
      ['\\', 'u', '0', '0', hexDigit (c.toNat / 16), hexDigit (c.toNat % 16)]
    else [c]

/-- A string between its quotes. -/
def quote (s : String) : String :=
  String.ofList ('"' :: s.toList.flatMap escapeChar ++ ['"'])

/-- A float, or `null` for one that JSON cannot write. -/
def floatText (x : Float) : String :=
  if x.isFinite then String.ofList (Decimal.json.text x) else "null"

/-- The text of a value that has no parts. -/
def scalarText : Json → String
  | bool b => if b then "true" else "false"
  | int i => String.ofList (Decimal.intText i)
  | float x => floatText x
  | string s => quote s
  | _ => "null"

mutual

/-- A value without blanks. -/
def compact : Json → String
  | array items => "[" ++ compactItems items ++ "]"
  | object members => "\x7b" ++ compactMembers members ++ "\x7d"
  | j => scalarText j

/-- The items of an array, with commas between them. -/
def compactItems : List Json → String
  | [] => ""
  | [j] => compact j
  | j :: js => compact j ++ "," ++ compactItems js

/-- The members of an object, with commas between them. -/
def compactMembers : List (String × Json) → String
  | [] => ""
  | [m] => compactMember m
  | m :: ms => compactMember m ++ "," ++ compactMembers ms

/-- A member: its name, a colon and its value. -/
def compactMember : String × Json → String
  | (name, j) => quote name ++ ":" ++ compact j

end

/-- The beginning of a line at a level. -/
def newline (level : Nat) : String :=
  String.ofList ('\n' :: List.replicate (2 * level) ' ')

mutual

/-- A value whose parts stand at the given level. -/
def prettyAt (level : Nat) : Json → String
  | array [] => "[]"
  | array (j :: js) => "[" ++ prettyItems level (j :: js) ++ newline (level - 1) ++ "]"
  | object [] => "\x7b\x7d"
  | object (m :: ms) => "\x7b" ++ prettyMembers level (m :: ms) ++ newline (level - 1) ++ "\x7d"
  | j => scalarText j

/-- The items of an array, each on its line. -/
def prettyItems (level : Nat) : List Json → String
  | [] => ""
  | [j] => newline level ++ prettyAt (level + 1) j
  | j :: js => newline level ++ prettyAt (level + 1) j ++ "," ++ prettyItems level js

/-- The members of an object, each on its line. -/
def prettyMembers (level : Nat) : List (String × Json) → String
  | [] => ""
  | [m] => newline level ++ prettyMember level m
  | m :: ms => newline level ++ prettyMember level m ++ "," ++ prettyMembers level ms

/-- A member at a level: its name, a colon, a blank and its value. -/
def prettyMember (level : Nat) : String × Json → String
  | (name, j) => quote name ++ ": " ++ prettyAt (level + 1) j

end

/-- A value on indented lines. -/
def pretty (j : Json) : String :=
  prettyAt 1 j

end RowQuery.Json
