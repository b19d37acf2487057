import RowQuery.Calendar.DateTime
import RowQuery.Decimal.Digits
import RowQuery.Text.Space

/-!
# Dates and times from text

Two manners of reading are at work. The *relaxed* one reads the written form number by number:
white space before a number is passed over, months, days and clock parts have one or two digits, a
year has up to four or, after a sign, any number of them. The *strict* one reads a time with an
offset, where every part has its full width and an offset, or `Z` for none, must follow.

A text is read as a time by the strict manner, then by the relaxed one with `T` and with blanks
between day and time, then by the relaxed one without seconds, and last as a bare day, which
stands for its midnight.
-/

namespace RowQuery.Calendar

open Decimal (power value)

/-- Takes a number of at least `least` and at most `most` digits off the front. -/
def takeNumber (least most : Nat) (s : List Char) : Option (Nat × List Char) :=
  let ds := (s.take most).takeWhile Char.isDigit
  if least ≤ ds.length then some (value ds, s.drop ds.length) else none

/-- Takes one given character off the front. -/
def takeChar (c : Char) : List Char → Option (List Char)
  | x :: s => if x = c then some s else none
  | [] => none

/-- Takes a fraction of a second off the front: a point and digits, of which nine count. Without a
    point the fraction is zero. -/
def takeFraction : List Char → Option (Nat × List Char)
  | '.' :: s =>
    let ds := s.takeWhile Char.isDigit
    let counted := ds.take 9
    if ds = [] then none
    else some (value counted * power 10 (9 - counted.length), s.drop ds.length)
  | s => some (0, s)

/-! ## The relaxed manner -/

/-- A part of one or two digits, after white space. -/
def takePart (s : List Char) : Option (Nat × List Char) :=
  takeNumber 1 2 (Text.trimStart s)

/-- A year, after white space: up to four digits, or a sign and any number of them. -/
def takeYear (s : List Char) : Option (Int × List Char) :=
  match Text.trimStart s with
  | '-' :: r => (takeNumber 1 r.length r).map fun (n, t) => (-(n : Int), t)
  | '+' :: r => (takeNumber 1 r.length r).map fun (n, t) => ((n : Int), t)
  | r => (takeNumber 1 4 r).map fun (n, t) => ((n : Int), t)

/-- A day, and what follows it. -/
def takeDate (s : List Char) : Option (Date × List Char) := do
  let (year, s) ← takeYear s
  let (month, s) ← takePart (← takeChar '-' s)
  let (day, s) ← takePart (← takeChar '-' s)
  return (← Date.ofParts? year month day, s)

/-- Reads a day and nothing else. -/
def readDate? (s : List Char) : Option Date := do
  let (date, rest) ← takeDate s
  if rest = [] then some date else none

/-- Reads a day and a time of day to the second, once `between` has taken what separates them. -/
def readRelaxed? (between : List Char → Option (List Char)) (s : List Char) : Option DateTime := do
  let (date, s) ← takeDate s
  let (hour, s) ← takePart (← between s)
  let (minute, s) ← takePart (← takeChar ':' s)
  let (second, s) ← takePart (← takeChar ':' s)
  let (nano, rest) ← takeFraction s
  if rest = [] then DateTime.ofParts? date hour minute second nano else none

/-- Reads a day and a time of day to the minute. -/
def readToMinute? (s : List Char) : Option DateTime := do
  let (date, s) ← takeDate s
  let (hour, s) ← takePart (← takeChar 'T' s)
  let (minute, rest) ← takePart (← takeChar ':' s)
  if rest = [] then DateTime.ofParts? date hour minute 0 0 else none

/-! ## The strict manner -/

/-- Reads an offset, in minutes: `Z` for none, or a sign, hours and minutes. -/
def readOffset? : List Char → Option Int
  | ['Z'] | ['z'] => some 0
  | c :: s => do
    let (hours, s) ← takeNumber 2 2 s
    let (minutes, rest) ← takeNumber 2 2 (← takeChar ':' s)
    if rest = [] ∧ hours < 24 ∧ minutes < 60 then
      if c = '+' then some (hours * 60 + minutes : Nat)
      else if c = '-' ∨ c = '\u2212' then some (-(hours * 60 + minutes : Nat))
      else none
    else none
  | [] => none

/-- Takes the mark between a day and a time of day. -/
def takeMark : List Char → Option (List Char)
  | 'T' :: s | 't' :: s | ' ' :: s => some s
  | _ => none

/-- Reads a time with its offset. -/
def readStrict? (s : List Char) : Option DateTime := do
  let (year, s) ← takeNumber 4 4 s
  let (month, s) ← takeNumber 2 2 (← takeChar '-' s)
  let (day, s) ← takeNumber 2 2 (← takeChar '-' s)
  let (hour, s) ← takeNumber 2 2 (← takeMark s)
  let (minute, s) ← takeNumber 2 2 (← takeChar ':' s)
  let (second, s) ← takeNumber 2 2 (← takeChar ':' s)
  let (nano, s) ← takeFraction s
  let offset ← readOffset? s
  let t ← DateTime.ofParts? (← Date.ofParts? year month day) hour minute second nano
  t.minusOffset? offset

/-! ## All forms -/

/-- Reads a time in any of its forms. -/
def readDateTime? (s : List Char) : Option DateTime :=
  readStrict? s
    <|> readRelaxed? (takeChar 'T') s
    <|> readRelaxed? (fun r => some (Text.trimStart r)) s
    <|> readToMinute? s
    <|> (readDate? s).map DateTime.midnight

end RowQuery.Calendar
