import RowQuery.Text.Hex
import RowQuery.Text.Split
import RowQuery.Text.Utf8

/-!
# Form encoding

The parameters of a request address are written in the encoding of web forms: pairs separated by
ampersands, a name and a value separated by an equals sign, and in both a blank as a plus sign and
every byte but those of letters, digits and `*-._` as a percent sign and two hexadecimal digits.

Reading is lenient. A percent sign that two digits do not follow stands for itself, bytes that are
no text become replacements, empty pairs are passed over, and a pair without an equals sign has an
empty value.
-/

namespace RowQuery.Form

open Text (utf8 decode bytesOf hexValue? splitAll splitFirst?)

/-- Whether a byte is written as the character it is. -/
def isPlain (b : Nat) : Bool :=
  (0x30 ≤ b && b ≤ 0x39) || (0x41 ≤ b && b ≤ 0x5A) || (0x61 ≤ b && b ≤ 0x7A) ||
    b == 0x2A || b == 0x2D || b == 0x2E || b == 0x5F

/-- A hexadecimal digit, in capitals. -/
def hexDigit (n : Nat) : Char :=
  Char.ofNat (if n < 10 then 0x30 + n else 0x37 + n)

/-- How a byte is written. -/
def encodeByte (b : Nat) : List Char :=
  if isPlain b then [Char.ofNat b]
  else if b = 0x20 then ['+']
  else ['%', hexDigit (b / 16), hexDigit (b % 16)]

/-- How a name or a value is written. -/
def encode (s : String) : List Char :=
  (utf8 s.toList).flatMap encodeByte

/-- The bytes that a written name or value stands for. -/
def bytes : List Char → List Nat
  | [] => []
  | '+' :: s => 0x20 :: bytes s
  | '%' :: a :: b :: s =>
    match hexValue? a, hexValue? b with
    | some x, some y => (16 * x + y) :: bytes s
    | _, _ => 0x25 :: bytes (a :: b :: s)
  | c :: s => bytesOf c ++ bytes s

/-- The name or value that is written. -/
def decoded (s : List Char) : String :=
  String.ofList (decode (bytes s))

/-- The parameter that a pair stands for. -/
def readPair (s : List Char) : String × String :=
  match splitFirst? '=' s with
  | some (name, value) => (decoded name, decoded value)
  | none => (decoded s, "")

/-- Reads parameters. -/
def read (s : List Char) : List (String × String) :=
  ((splitAll '&' s).filter (· ≠ [])).map readPair

/-- How a parameter is written. -/
def writePair (p : String × String) : List Char :=
  encode p.1 ++ '=' :: encode p.2

/-- Writes parameters. -/
def write : List (String × String) → List Char
  | [] => []
  | [p] => writePair p
  | p :: ps => writePair p ++ '&' :: write ps

end RowQuery.Form
