/-!
# Hexadecimal digits

Escapes of characters and of bytes are written in hexadecimal digits, which are read in either
case.
-/

namespace RowQuery.Text

/-- The value of a hexadecimal digit. -/
def hexValue? (c : Char) : Option Nat :=
  if '0' ≤ c ∧ c ≤ '9' then some (c.toNat - 0x30)
  else if 'A' ≤ c ∧ c ≤ 'F' then some (c.toNat - 0x37)
  else if 'a' ≤ c ∧ c ≤ 'f' then some (c.toNat - 0x57)
  else none

/-- The number that hexadecimal digits stand for, behind a number read before them. -/
def hexNumber? (before : Nat) : List Char → Option Nat
  | [] => some before
  | c :: cs => (hexValue? c).bind fun d => hexNumber? (16 * before + d) cs

/-- The character with a number. Halves of surrogate pairs and numbers beyond Unicode have none. -/
def charOf? (n : Nat) : Option Char :=
  if n.isValidChar then some (Char.ofNat n) else none

end RowQuery.Text
