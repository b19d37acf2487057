import RowQuery.Decimal.Digits
import RowQuery.Decimal.Shortest

/-!
# Floats as text

Every float is written with the digits of its shortest decimal. What is left to decide is how the
digits are laid out, and a `Layout` holds these decisions: which numbers are written positionally
and which with an exponent, whether a whole number keeps a point, whether a positive exponent
carries its sign, and which of two equally near decimals is chosen.
-/

namespace RowQuery.Decimal

/-- The decisions that fix how a float is written. -/
structure Layout where
  /-- Whether a number whose leading digit stands for `10^e` is written without an exponent. -/
  positional : Int → Bool
  /-- Whether a whole number written positionally ends in `.0`. -/
  pointZero : Bool
  /-- Whether a positive exponent is written with its plus sign. -/
  plusSign : Bool
  /-- Which of two equally near decimals is taken. -/
  tie : Tie

/-- The digits laid out with a point or an exponent. -/
def Layout.arrange (l : Layout) (d : Scientific) : List Char :=
  let ds := natText d.digits
  -- The point stands after this many digits, counted from the first.
  let point : Int := ds.length + d.exponent
  if l.positional (point - 1) then
    if point ≤ 0 then ['0', '.'] ++ List.replicate (-point).toNat '0' ++ ds
    else if (ds.length : Int) ≤ point then
      ds ++ List.replicate (point.toNat - ds.length) '0' ++ if l.pointZero then ['.', '0'] else []
    else ds.take point.toNat ++ '.' :: ds.drop point.toNat
  else
    let mantissa := match ds with
      | [c] => [c]
      | c :: cs => c :: '.' :: cs
      | [] => []
    let plus := if l.plusSign && 0 ≤ point - 1 then ['+'] else []
    mantissa ++ 'e' :: plus ++ intText (point - 1)

/-- A float as text. -/
def Layout.text (l : Layout) (x : Float) : List Char :=
  if x.isNaN then ['N', 'a', 'N']
  else
    let sign := if x.toBits.toNat / 0x8000000000000000 = 1 then ['-'] else []
    let size :=
      if x.isInf then ['i', 'n', 'f']
      else
        let d := Dyadic.ofBits x.toBits
        if d.mantissa = 0 then '0' :: if l.pointZero then ['.', '0'] else []
        else l.arrange (d.shortest l.tie)
    sign ++ size

/-- Floats for people never carry an exponent, and a whole number looks like an integer. -/
def plain : Layout where
  positional _ := true
  pointZero := false
  plusSign := false
  tie := .up

/-- Floats in a debugging listing are told from integers by their point, and have an exponent
    below `10^-4` and from `10^16` on. -/
def listing : Layout where
  positional e := -4 ≤ e && e < 16
  pointZero := true
  plusSign := false
  tie := .up

/-- Floats in JSON are told from integers by their point, and have a signed exponent below
    `10^-5` and from `10^16` on. -/
def json : Layout where
  positional e := -5 ≤ e && e < 16
  pointZero := true
  plusSign := true
  tie := .even

end RowQuery.Decimal
