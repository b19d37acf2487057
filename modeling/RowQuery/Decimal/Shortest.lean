import RowQuery.Decimal.Digits

/-!
# The shortest decimal of a number

A finite 64-bit float is a *dyadic* number `m · 2^q`, and stands for an interval of reals: all
those that lie nearer to it than to any other float (and the two ends, if `m` is even). Its
shortest decimal is the one with the fewest digits in that interval; among several of that length
the nearest to the number itself.

The search follows the definition. A decimal with `n` digits lies on the grid of multiples of
`10^(k - n)`, where `10^k` is the least power above the number, and if any point of a grid lies in
the interval then one of the two neighbours of the number on that grid does. So the grids of 1, 2,
…, 17 digits are tried in turn, all in exact arithmetic on natural numbers.
-/

namespace RowQuery.Decimal

/-- The decimal `digits · 10^exponent`. -/
structure Scientific where
  digits : Nat
  exponent : Int
deriving DecidableEq, Repr

/-- The number `mantissa · 2^exponent`, as a 64-bit float holds it. -/
structure Dyadic where
  mantissa : Nat
  exponent : Int
  /-- Whether the float below is half as far away as the float above. -/
  narrowBelow : Bool

/-- Which of two equally near decimals is taken. -/
inductive Tie
  | up
  | even
deriving DecidableEq

/-- The leading bit of a mantissa, which the bits of a float leave out. -/
def hiddenBit : Nat := 0x10000000000000

/-- The magnitude of a finite float, from its bits. -/
def Dyadic.ofBits (bits : UInt64) : Dyadic :=
  let e : Nat := bits.toNat / hiddenBit % 0x800
  let f : Nat := bits.toNat % hiddenBit
  if e = 0 then ⟨f, -1074, false⟩ else ⟨hiddenBit + f, (e : Int) - 1075, f = 0 && 1 < e⟩

/-- Compares `a · 10^i` with `n · 2^j`. -/
def compareScaled (a : Nat) (i : Int) (n : Nat) (j : Int) : Ordering :=
  compare (a * power 10 i.toNat * power 2 (-j).toNat) (n * power 2 j.toNat * power 10 (-i).toNat)

/-- Whether a decimal lies in the interval that the number stands for. In quarters of a unit of
    the mantissa the interval reaches two above the number, and two (or one) below. -/
def Dyadic.covers (x : Dyadic) (d : Scientific) : Bool :=
  let low := compareScaled d.digits d.exponent
    (4 * x.mantissa - if x.narrowBelow then 1 else 2) (x.exponent - 2)
  let high := compareScaled d.digits d.exponent (4 * x.mantissa + 2) (x.exponent - 2)
  let closed := x.mantissa % 2 == 0
  (low == .gt || closed && low == .eq) && (high == .lt || closed && high == .eq)

/-- The least `k` with `x < 10^k`, for a positive number. The estimate from the binary logarithm
    is low by two at most. -/
def Dyadic.magnitude (x : Dyadic) : Int :=
  let estimate := Int.fdiv (((x.mantissa.log2 : Int) + x.exponent) * 30103) 100000
  let candidates := (List.range 4).map fun (i : Nat) => estimate - 1 + (i : Int)
  (candidates.find? fun k => compareScaled 1 k x.mantissa x.exponent == .gt).getD (estimate + 3)

/-- The best decimal on the grid of multiples of `10^g`, if one stands for the number. -/
def Dyadic.onGrid? (tie : Tie) (x : Dyadic) (g : Int) : Option Scientific :=
  let num := x.mantissa * power 2 x.exponent.toNat * power 10 (-g).toNat
  let den := power 2 (-x.exponent).toNat * power 10 g.toNat
  let below := num / den
  let lower : Scientific := ⟨below, g⟩
  let upper : Scientific := ⟨below + 1, g⟩
  match x.covers lower, x.covers upper with
  | true, true =>
    match compare (2 * num) ((2 * below + 1) * den), tie with
    | .lt, _ => some lower
    | .gt, _ => some upper
    | .eq, .up => some upper
    | .eq, .even => some (if below % 2 = 0 then lower else upper)
  | true, false => some lower
  | false, true => some upper
  | false, false => none

/-- The number in full: every dyadic number is a decimal. -/
def Dyadic.exact (x : Dyadic) : Scientific :=
  if 0 ≤ x.exponent then ⟨x.mantissa * power 2 x.exponent.toNat, 0⟩
  else ⟨x.mantissa * power 5 (-x.exponent).toNat, x.exponent⟩

/-- The decimal without zeros at the end of its digits. -/
def Scientific.stripZeros (d : Scientific) : Scientific :=
  let zeros := ((List.range d.digits.log2).find? fun i => d.digits % power 10 (i + 1) ≠ 0).getD 0
  ⟨d.digits / power 10 zeros, d.exponent + zeros⟩

/-- The shortest decimal of a positive number. -/
def Dyadic.shortest (tie : Tie) (x : Dyadic) : Scientific :=
  let k := x.magnitude
  let found := (List.range 17).findSome? fun (n : Nat) => x.onGrid? tie (k - (n + 1))
  (found.getD x.exact).stripZeros

end RowQuery.Decimal
