import RowQuery.Calendar.Reading
import RowQuery.Decimal.Reading
import RowQuery.Text.Hex
import RowQuery.Toml.Basic

/-!
# Scalars of TOML

Strings, numbers, dates and times, each taken off the front of a text together with what follows
it. What cannot be taken makes the document ill formed, so there is one failure, `none`.

A string is taken in three steps: its raw text up to the closing quotes, then, if it spans lines,
the removal of line ends behind a backslash, then the escapes. Numbers may have single
underscores between their digits.
-/

namespace RowQuery.Toml

open Calendar (takeChar takeNumber takeFraction takeMark)

/-- A blank within a line. -/
def isBlank (c : Char) : Bool :=
  c = ' ' || c = '\t'

/-- Whether a character may stand in a string or a comment: no control character but the tab. -/
def isPlain (c : Char) : Bool :=
  c = '\t' || (0x20 ≤ c.toNat && c.toNat ≠ 0x7F)

/-- Takes the end of a line off the front. -/
def takeNewline : List Char → Option (List Char)
  | '\n' :: s => some s
  | '\r' :: '\n' :: s => some s
  | _ => none

/-! ## Strings -/

/-- Puts a character in front of a string that has been taken. -/
def consChar (c : Char) (r : Option (List Char × List Char)) : Option (List Char × List Char) :=
  r.map fun (s, rest) => (c :: s, rest)

/-- Takes the end of a string that spans lines off the front, behind the first three closing quotes:
    up to two quotes that belong to the string. -/
def takeLastQuotes (quote : Char) (s : List Char) : Option (List Char × List Char) :=
  let quotes := s.takeWhile (· = quote)
  if quotes.length ≤ 2 then some (quotes, s.drop quotes.length) else none

/-- Takes the raw text of a string off the front, behind its opening quotes. It may span lines, and
    then three quotes close it; it may have escapes, and then an escaped quote does not close it. -/
def takeRaw (quote : Char) (lines escapes : Bool) :
    (escaped : Bool) → List Char → Option (List Char × List Char)
  | _, [] => none
  | escaped, c :: s =>
    if lines && c = '\r' && s.head? = some '\n' then takeRaw quote lines escapes escaped s
    else if lines && c = '\n' then consChar c (takeRaw quote lines escapes false s)
    else if !isPlain c then none
    else if escaped then consChar c (takeRaw quote lines escapes false s)
    else if c = quote then
      if !lines then some ([], s)
      else if s.take 2 = [quote, quote] then takeLastQuotes quote (s.drop 2)
      else consChar c (takeRaw quote lines escapes false s)
    else consChar c (takeRaw quote lines escapes (escapes && c = '\\') s)

/-- Where a walk through a raw text stands. -/
inductive Place
  /-- In ordinary text. -/
  | text
  /-- Behind a backslash. -/
  | escape
  /-- In the gap behind a backslash that ends a line. -/
  | gap
deriving DecidableEq

/-- The raw text without the gaps that backslashes at the ends of lines make: from such a
    backslash to the next character that is neither blank nor the end of a line. -/
def joinLines : Place → List Char → List Char
  | _, [] => []
  | .escape, c :: s => c :: joinLines .text s
  | place, c :: s =>
    if place = .gap ∧ (isBlank c || c = '\n') then joinLines .gap s
    else if c ≠ '\\' then c :: joinLines .text s
    else if (s.dropWhile isBlank).head? = some '\n' then joinLines .gap s
    else c :: joinLines .escape s

/-- The character that a letter stands for behind a backslash. -/
def escape? : Char → Option Char
  | 'b' => some '\x08'
  | 't' => some '\t'
  | 'n' => some '\n'
  | 'f' => some '\x0c'
  | 'r' => some '\r'
  | '"' => some '"'
  | '\\' => some '\\'
  | _ => none

/-- The character that hexadecimal digits stand for. -/
def numbered? (digits : List Char) : Option Char :=
  (Text.hexNumber? 0 digits).bind Text.charOf?

/-- The text with its escapes taken out. -/
def unescape? : List Char → Option (List Char)
  | [] => some []
  | '\\' :: 'u' :: a :: b :: c :: d :: s => do
    return (← numbered? [a, b, c, d]) :: (← unescape? s)
  | '\\' :: 'U' :: a :: b :: c :: d :: e :: f :: g :: h :: s => do
    return (← numbered? [a, b, c, d, e, f, g, h]) :: (← unescape? s)
  | '\\' :: c :: s => do return (← escape? c) :: (← unescape? s)
  | c :: s => if c = '\\' then none else (unescape? s).map (c :: ·)

/-- Takes a string within a line off the front, behind its opening quote. -/
def takeLine (quote : Char) (s : List Char) : Option (String × List Char) := do
  let escapes := quote = '"'
  let (raw, rest) ← takeRaw quote false escapes false s
  let text ← if escapes then unescape? raw else some raw
  return (String.ofList text, rest)

/-- Takes a string that may span lines off the front, behind its opening quotes. A line end right
    behind them does not count. -/
def takeLines (quote : Char) (s : List Char) : Option (String × List Char) := do
  let escapes := quote = '"'
  let (raw, rest) ← takeRaw quote true escapes false ((takeNewline s).getD s)
  let text ← if escapes then unescape? (joinLines .text raw) else some raw
  return (String.ofList text, rest)

/-- Takes a string off the front. -/
def takeString : List Char → Option (String × List Char)
  | '"' :: '"' :: '"' :: s => takeLines '"' s
  | '\'' :: '\'' :: '\'' :: s => takeLines '\'' s
  | '"' :: s => takeLine '"' s
  | '\'' :: s => takeLine '\'' s
  | _ => none

/-! ## Numbers -/

/-- Whether no underscore stands beside another or at the end. -/
def wellSpaced : List Char → Bool
  | [] => true
  | ['_'] => false
  | '_' :: '_' :: _ => false
  | _ :: s => wellSpaced s

/-- Takes digits off the front, with single underscores between them. -/
def takeDigits (isDigit : Char → Bool) (s : List Char) : Option (List Char × List Char) :=
  let run := s.takeWhile fun c => isDigit c || c = '_'
  if run ≠ [] ∧ run.head? ≠ some '_' ∧ wellSpaced run then
    some (run.filter (· ≠ '_'), s.drop run.length)
  else none

/-- An integer, if it has 64 bits. -/
def integer? (i : Int) : Option Toml :=
  if Decimal.isInt64 i then some (integer i) else none

/-- The number that digits of a base up to sixteen stand for. -/
def baseValue (base : Nat) (digits : List Char) : Nat :=
  digits.foldl (fun n c => base * n + (Text.hexValue? c).getD 0) 0

/-- Takes an integer of a base off the front, behind its mark. -/
def takeBased (base : Nat) (s : List Char) : Option (Toml × List Char) := do
  let isDigit (c : Char) := (Text.hexValue? c).any (· < base)
  let (digits, rest) ← takeDigits isDigit s
  return (← integer? (baseValue base digits), rest)

/-- Takes the fraction of a number off the front, if it has one. -/
def takePlaces : List Char → Option (Option (List Char) × List Char)
  | '.' :: s => (takeDigits Char.isDigit s).map fun (digits, rest) => (some digits, rest)
  | s => some (none, s)

/-- Takes the exponent of a number off the front, if it has one. -/
def takeExponent : List Char → Option (Option Int × List Char)
  | [] => some (none, [])
  | c :: s =>
    if c = 'e' ∨ c = 'E' then
      let (negative, s) := Decimal.takeSign s
      (takeDigits Char.isDigit s).map fun (digits, rest) =>
        let n : Int := Decimal.value digits
        (some (if negative then -n else n), rest)
    else some (none, c :: s)

/-- A float, unless it is too great for one. -/
def finite? (negative : Bool) (x : Float) : Option Toml :=
  if x.isInf && !negative then none else some (float (Decimal.signed negative x))

/-- Takes a decimal number off the front, behind its sign. Leading zeros are refused. -/
def takeDecimal (negative : Bool) (s : List Char) : Option (Toml × List Char) := do
  let (whole, s) ← takeDigits Char.isDigit s
  if whole.head? = some '0' ∧ 1 < whole.length then none
  let (places?, s) ← takePlaces s
  let (exponent?, s) ← takeExponent s
  match places?, exponent? with
  | none, none =>
    let n : Int := Decimal.value whole
    return (← integer? (if negative then -n else n), s)
  | _, _ =>
    let places := places?.getD []
    let x := Decimal.nearest (Decimal.value (whole ++ places))
      (exponent?.getD 0 - places.length)
    return (← finite? negative x, s)

/-- Takes a number off the front. -/
def takeNumeral (s : List Char) : Option (Toml × List Char) :=
  match s with
  | '0' :: 'x' :: r => takeBased 16 r
  | '0' :: 'o' :: r => takeBased 8 r
  | '0' :: 'b' :: r => takeBased 2 r
  | s =>
    let (negative, r) := Decimal.takeSign s
    match r with
    | 'i' :: 'n' :: 'f' :: rest =>
      some (float (Decimal.signed negative (Float.ofBits 0x7FF0000000000000)), rest)
    | 'n' :: 'a' :: 'n' :: rest => some (float (Float.ofBits 0x7FF8000000000000), rest)
    | r => takeDecimal negative r

/-! ## Dates and times -/

/-- What follows a day at the front. -/
def dropDate (s : List Char) : Option (List Char) := do
  let (year, s) ← takeNumber 4 4 s
  let (month, s) ← takeNumber 2 2 (← takeChar '-' s)
  let (day, s) ← takeNumber 2 2 (← takeChar '-' s)
  let _ ← Calendar.Date.ofParts? year month day
  return s

/-- What follows a time of day at the front. -/
def dropClock (s : List Char) : Option (List Char) := do
  let (hour, s) ← takeNumber 2 2 s
  let (minute, s) ← takeNumber 2 2 (← takeChar ':' s)
  let (second, s) ← takeNumber 2 2 (← takeChar ':' s)
  let (_, s) ← takeFraction s
  if hour < 24 ∧ minute < 60 ∧ second ≤ 60 then some s else none

/-- What follows an offset at the front, if there is one. -/
def dropOffset : List Char → Option (List Char)
  | 'Z' :: s | 'z' :: s => some s
  | c :: s =>
    if c = '+' ∨ c = '-' then do
      let (hours, s) ← takeNumber 2 2 s
      let (minutes, s) ← takeNumber 2 2 (← takeChar ':' s)
      if hours < 24 ∧ minutes < 60 then some s else none
    else some (c :: s)
  | [] => some []

/-- What follows a day, a time of day or both at the front. -/
def dropDateTime (s : List Char) : Option (List Char) :=
  match dropDate s with
  | none => dropClock s
  | some r => match (takeMark r).bind dropClock with
    | none => some r
    | some r => dropOffset r

/-- Takes a date or a time off the front. -/
def takeDateTime (s : List Char) : Option (Toml × List Char) :=
  (dropDateTime s).map fun rest =>
    (dateTime (String.ofList (s.take (s.length - rest.length))), rest)

/-- Takes a scalar that is no string off the front. -/
def takeScalar : List Char → Option (Toml × List Char)
  | 't' :: 'r' :: 'u' :: 'e' :: s => some (boolean true, s)
  | 'f' :: 'a' :: 'l' :: 's' :: 'e' :: s => some (boolean false, s)
  | s => takeDateTime s <|> takeNumeral s

end RowQuery.Toml
