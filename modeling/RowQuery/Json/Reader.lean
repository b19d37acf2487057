import RowQuery.Decimal.Reading
import RowQuery.Json.Basic
import RowQuery.Named
import RowQuery.Text.Hex

/-!
# JSON from text

`Json.read?` reads one value and refuses everything that is not JSON: raw control characters in
strings, halves of surrogate pairs, numbers with leading zeros, numbers too great for a float,
anything after the value, and values nested more than 127 levels deep. Members come out in the
order of their names, and of several with one name the last counts.

A float is not the nearest to its decimal. Its digits are taken into one 64-bit word until the
word is full, and the word is scaled by a power of ten in floating arithmetic; that is exact for
up to fifteen digits and small powers, and can be off in the last place otherwise.
-/

namespace RowQuery.Json

/-- White space between the parts of a value. -/
def isBlank (c : Char) : Bool :=
  c == ' ' || c == '\n' || c == '\t' || c == '\r'

/-- The text without the white space in front. -/
def skipBlanks (s : List Char) : List Char :=
  s.dropWhile isBlank

/-! ## Numbers -/

/-- The number of words of 64 bits. -/
def wordBound : Nat := 0x10000000000000000

/-- What is left of a number's digits: a word of at most 64 bits, to be scaled by a power of ten. -/
structure Scaled where
  word : Nat
  exponent : Int

/-- Whether one more digit still fits into the word. -/
def Scaled.fits (x : Scaled) (c : Char) : Bool :=
  x.word * 10 + Decimal.digitValue c < wordBound

/-- Takes the digits before the point. Once one does not fit, it and all that follow count only by
    their number. -/
def Scaled.whole (x : Scaled) : List Char → Scaled
  | [] => x
  | c :: cs =>
    if x.fits c then Scaled.whole ⟨x.word * 10 + Decimal.digitValue c, x.exponent⟩ cs
    else ⟨x.word, x.exponent + (cs.length + 1)⟩

/-- Takes the digits after the point. Once one does not fit, it and all that follow are dropped. -/
def Scaled.fraction (x : Scaled) : List Char → Scaled
  | [] => x
  | c :: cs =>
    if x.fits c then Scaled.fraction ⟨x.word * 10 + Decimal.digitValue c, x.exponent - 1⟩ cs
    else x

/-- Scales a float by a power of ten, if the result is finite. A factor below `10^-308` is applied
    in steps, each of which brings a word's worth of digits closer to zero; three of them reach
    it. -/
def scale : Nat → Float → Int → Option Float
  | steps, x, e =>
    if e.natAbs ≤ 308 then
      let power := Decimal.nearest 1 e.natAbs
      if 0 ≤ e then
        let y := x * power
        if y.isInf then none else some y
      else some (x / power)
    else if x == 0 then some x
    else if 0 ≤ e then none
    else match steps with
      | 0 => some 0
      | steps + 1 => scale steps (x / Decimal.nearest 1 308) (e + 308)

/-- The float that scaled digits stand for. -/
def Scaled.float? (x : Scaled) : Option Float :=
  scale 3 (Decimal.ofInt x.word) x.exponent

/-- Takes an exponent off the front, if one is there. -/
def takeExponent : List Char → Option (Option Int × List Char)
  | [] => some (none, [])
  | c :: s =>
    if c = 'e' ∨ c = 'E' then
      let (negative, r) := Decimal.takeSign s
      let ds := r.takeWhile Char.isDigit
      if ds = [] then none
      else
        let n := Decimal.value ds
        some (some (if negative then -(n : Int) else (n : Int)), r.drop ds.length)
    else some (none, c :: s)

/-- Takes a fraction off the front, if one is there: its digits. -/
def takeFraction : List Char → Option (Option (List Char) × List Char)
  | '.' :: s =>
    let ds := s.takeWhile Char.isDigit
    if ds = [] then none else some (some ds, s.drop ds.length)
  | s => some (none, s)

/-- A whole number that a machine word holds, signed or not. Minus zero is none: integers have
    one zero. -/
def integer? (negative : Bool) (n : Nat) : Option Int :=
  if negative then if 0 < n ∧ 2 * n ≤ wordBound then some (-(n : Int)) else none
  else if n < wordBound then some n else none

/-- Takes a number off the front. -/
def takeNumber (s : List Char) : Option (Json × List Char) := do
  let (negative, s) := match s with
    | '-' :: r => (true, r)
    | r => (false, r)
  let whole := s.takeWhile Char.isDigit
  if whole = [] ∨ (whole.head? = some '0' ∧ 1 < whole.length) then none
  else
    let (fraction, s) ← takeFraction (s.drop whole.length)
    let (exponent, s) ← takeExponent s
    let number := match fraction, exponent with
      | none, none => integer? negative (Decimal.value whole)
      | _, _ => none
    match number with
    | some i => some (int i, s)
    | none =>
      let x := (Scaled.whole ⟨0, 0⟩ whole).fraction (fraction.getD [])
      let y ← Scaled.float? ⟨x.word, x.exponent + exponent.getD 0⟩
      some (float (Decimal.signed negative y), s)

/-! ## Strings -/

/-- The number that four hexadecimal digits stand for. -/
def hexFour? (a b c d : Char) : Option Nat :=
  Text.hexNumber? 0 [a, b, c, d]

/-- The character that a letter stands for after a backslash. -/
def unescape? : Char → Option Char
  | '"' => some '"'
  | '\\' => some '\\'
  | '/' => some '/'
  | 'b' => some '\x08'
  | 'f' => some '\x0c'
  | 'n' => some '\n'
  | 'r' => some '\r'
  | 't' => some '\t'
  | _ => none

/-- Puts a character in front of a string that has been read. -/
def consChar (c : Char) (r : Option (List Char × List Char)) : Option (List Char × List Char) :=
  r.map fun (s, rest) => (c :: s, rest)

/-- Takes a string off the front, after its first quote. -/
def takeString : List Char → Option (List Char × List Char)
  | [] => none
  | '"' :: s => some ([], s)
  | '\\' :: 'u' :: a :: b :: c :: d :: s =>
    match hexFour? a b c d with
    | none => none
    | some n =>
      if 0xD800 ≤ n ∧ n < 0xDC00 then
        match s with
        | '\\' :: 'u' :: e :: f :: g :: h :: r =>
          match hexFour? e f g h with
          | none => none
          | some m =>
            if 0xDC00 ≤ m ∧ m < 0xE000 then
              consChar (Char.ofNat (0x10000 + (n - 0xD800) * 0x400 + (m - 0xDC00))) (takeString r)
            else none
        | _ => none
      else if 0xDC00 ≤ n ∧ n < 0xE000 then none
      else consChar (Char.ofNat n) (takeString s)
  | '\\' :: c :: s =>
    match unescape? c with
    | none => none
    | some u => consChar u (takeString s)
  | c :: s => if c.toNat < 0x20 ∨ c = '\\' then none else consChar c (takeString s)

/-! ## Values -/

/-- Takes items off the front, with commas between them and the given bracket after the last. Every
    item takes a character at least, so the length of the text bounds their number. -/
def takeItems {α : Type} (item : List Char → Option (α × List Char)) (close : Char) :
    Nat → List Char → Option (List α × List Char)
  | 0, _ => none
  | fuel + 1, s => do
    let (x, s) ← item (skipBlanks s)
    match skipBlanks s with
    | c :: s =>
      if c = close then some ([x], s)
      else if c = ',' then
        let (xs, s) ← takeItems item close fuel s
        some (x :: xs, s)
      else none
    | [] => none

/-- Takes a bracketed list off the front, after its opening bracket. -/
def takeList {α : Type} (item : List Char → Option (α × List Char)) (close : Char)
    (s : List Char) : Option (List α × List Char) :=
  match skipBlanks s with
  | c :: r => if c = close then some ([], r) else takeItems item close (s.length + 1) s
  | [] => none

/-- Takes a member off the front, given how to take its value. -/
def takeMember (value : List Char → Option (Json × List Char)) :
    List Char → Option ((String × Json) × List Char)
  | '"' :: s => do
    let (name, s) ← takeString s
    match skipBlanks s with
    | ':' :: s =>
      let (j, s) ← value (skipBlanks s)
      some ((String.ofList name, j), s)
    | _ => none
  | _ => none

/-- Takes a value off the front, nested at most so many levels deep. -/
def takeValue : Nat → List Char → Option (Json × List Char)
  | _, 'n' :: 'u' :: 'l' :: 'l' :: s => some (null, s)
  | _, 't' :: 'r' :: 'u' :: 'e' :: s => some (bool true, s)
  | _, 'f' :: 'a' :: 'l' :: 's' :: 'e' :: s => some (bool false, s)
  | _, '"' :: s => (takeString s).map fun (t, r) => (string (String.ofList t), r)
  | depth + 1, '[' :: s => (takeList (takeValue depth) ']' s).map fun (js, r) => (array js, r)
  | depth + 1, '\x7b' :: s =>
    (takeList (takeMember (takeValue depth)) '\x7d' s).map fun (ms, r) =>
      (object (Named.ofList ms).entries, r)
  | _, s => takeNumber s

/-- How deep values may be nested. -/
def maxDepth : Nat := 127

/-- Reads a value and nothing else. -/
def read? (s : String) : Option Json := do
  let (j, rest) ← takeValue maxDepth (skipBlanks s.toList)
  if skipBlanks rest = [] then some j else none

end RowQuery.Json
