import RowQuery.Decimal.Digits

/-!
# Floats from text

A float is read from a sign or none and then a word for infinity or for no number, in any case, or
a decimal: digits with at most one point among them and at least one digit beside it, and perhaps
an exponent. The value is the float nearest to the decimal, which is infinite beyond the greatest.
-/

namespace RowQuery.Decimal

/-- The float nearest to `digits · 10^exponent`. Decimals far outside the range of floats are
    settled by their magnitude alone. -/
def nearest (digits : Nat) (exponent : Int) : Float :=
  if digits = 0 then 0
  else
    let magnitude : Int := (natText digits).length + exponent
    if 310 < magnitude then Float.ofBits 0x7FF0000000000000
    else if magnitude < -330 then 0
    else Float.ofScientific digits (exponent < 0) exponent.natAbs

/-- The negative of a float, or the float itself. -/
def signed (negative : Bool) (x : Float) : Float :=
  if negative then -x else x

/-- The float nearest to an integer. -/
def ofInt (i : Int) : Float :=
  signed (i < 0) (Float.ofScientific i.natAbs false 0)

/-- The exponent written at the end of a decimal: zero if there is none. -/
def readExponent? : List Char → Option Int
  | [] => some 0
  | c :: s => if c = 'e' || c = 'E' then readInt? s else none

/-- Reads a decimal without a sign. -/
def readDecimal? (s : List Char) : Option Float :=
  let whole := s.takeWhile Char.isDigit
  let rest := s.dropWhile Char.isDigit
  let (fraction, tail) := match rest with
    | '.' :: r => (r.takeWhile Char.isDigit, r.dropWhile Char.isDigit)
    | r => ([], r)
  if whole = [] && fraction = [] then none
  else (readExponent? tail).map fun (e : Int) =>
    nearest (value (whole ++ fraction)) (e - fraction.length)

/-- Reads a float. -/
def readFloat? (s : List Char) : Option Float :=
  let (negative, body) := takeSign s
  let word := body.map Char.toLower
  if word = "inf".toList || word = "infinity".toList then
    some (signed negative (Float.ofBits 0x7FF0000000000000))
  else if word = "nan".toList then some (Float.ofBits 0x7FF8000000000000)
  else (readDecimal? body).map (signed negative)

end RowQuery.Decimal
