/-!
# Bytes of a text

Positions in a filter are byte offsets, and a parameter of a request address travels as bytes, so
texts are encoded as UTF-8 here and read back. Reading is *lossy*: bytes that are no UTF-8 become
the replacement character, one for each longest piece that could still have begun a character.
A byte is a natural number below 256.

The reader is an automaton. Between characters it is idle; inside one it knows how many bytes are
missing and in which range the next of them must lie. A byte out of range ends the character
with a replacement and is read again as a first byte.

* `decode_bytesOf`: what was written is read back, whatever follows it.
-/

namespace RowQuery.Text

/-- The bytes of one character. -/
def bytesOf (c : Char) : List Nat :=
  let n := c.toNat
  if n < 0x80 then [n]
  else if n < 0x800 then [0xC0 + n / 0x40, 0x80 + n % 0x40]
  else if n < 0x10000 then [0xE0 + n / 0x1000, 0x80 + n / 0x40 % 0x40, 0x80 + n % 0x40]
  else [0xF0 + n / 0x40000, 0x80 + n / 0x1000 % 0x40, 0x80 + n / 0x40 % 0x40, 0x80 + n % 0x40]

/-- The bytes of a text. -/
def utf8 (s : List Char) : List Nat :=
  s.flatMap bytesOf

/-- The number of bytes of a text. -/
def byteLength (s : List Char) : Nat :=
  s.foldr (fun c n => c.utf8Size + n) 0

@[simp] theorem byteLength_nil : byteLength [] = 0 := rfl

@[simp] theorem byteLength_cons (c : Char) (s : List Char) :
    byteLength (c :: s) = c.utf8Size + byteLength s := rfl

@[simp] theorem byteLength_append (s t : List Char) :
    byteLength (s ++ t) = byteLength s + byteLength t := by
  induction s with
  | nil => simp
  | cons c s ih => rw [List.cons_append, byteLength_cons, byteLength_cons, ih, Nat.add_assoc]

/-- What stands for bytes that are no character. -/
def replacement : Char := '\ufffd'

/-- A character that has been begun. -/
structure Begun where
  /-- The bits read so far. -/
  bits : Nat
  /-- How many bytes are missing after the next one. -/
  missing : Nat
  /-- The least value of the next byte. -/
  low : Nat
  /-- The greatest value of the next byte. -/
  high : Nat

/-- What a first byte begins: `none` for a byte that is complete or cannot begin a character. -/
def Begun.ofByte? (b : Nat) : Option Begun :=
  if b < 0xC2 then none
  else if b < 0xE0 then some ⟨b - 0xC0, 0, 0x80, 0xBF⟩
  else if b < 0xF0 then
    some ⟨b - 0xE0, 1, if b = 0xE0 then 0xA0 else 0x80, if b = 0xED then 0x9F else 0xBF⟩
  else if b < 0xF5 then
    some ⟨b - 0xF0, 2, if b = 0xF0 then 0x90 else 0x80, if b = 0xF4 then 0x8F else 0xBF⟩
  else none

/-- Whether a byte continues the character. -/
def Begun.admits (p : Begun) (b : Nat) : Bool :=
  p.low ≤ b && b ≤ p.high

/-- The character after one more byte. -/
def Begun.push (p : Begun) (b : Nat) : Begun :=
  ⟨p.bits * 0x40 + b % 0x40, p.missing - 1, 0x80, 0xBF⟩

/-- The characters that bytes stand for, read after the beginning of a character. -/
def decodeFrom : Option Begun → List Nat → List Char
  | none, [] => []
  | some _, [] => [replacement]
  | none, b :: r =>
    if b < 0x80 then Char.ofNat b :: decodeFrom none r
    else match Begun.ofByte? b with
      | some p => decodeFrom (some p) r
      | none => replacement :: decodeFrom none r
  | some p, b :: r =>
    if p.admits b then
      match p.missing with
      | 0 => Char.ofNat (p.push b).bits :: decodeFrom none r
      | _ + 1 => decodeFrom (some (p.push b)) r
    else if b < 0x80 then replacement :: Char.ofNat b :: decodeFrom none r
    else match Begun.ofByte? b with
      | some q => replacement :: decodeFrom (some q) r
      | none => replacement :: replacement :: decodeFrom none r

/-- The text that bytes stand for, with replacements where they are no UTF-8. -/
def decode (bytes : List Nat) : List Char :=
  decodeFrom none bytes

/-- A character is a code point below the surrogates or above them. -/
theorem toNat_lt_or (c : Char) : c.toNat < 0xD800 ∨ (0xE000 ≤ c.toNat ∧ c.toNat < 0x110000) := by
  have v := c.valid
  have e : c.val.toNat = c.toNat := rfl
  simp only [UInt32.isValidChar, Nat.isValidChar] at v
  rw [e] at v
  omega

/-- Reading the bytes of a character gives the character, whatever follows. -/
theorem decode_bytesOf (c : Char) (r : List Nat) : decode (bytesOf c ++ r) = c :: decode r := by
  have hc := toNat_lt_or c
  have hn : Char.ofNat c.toNat = c := Char.ofNat_toNat c
  generalize hk : c.toNat = n at hc hn
  simp only [bytesOf, hk]
  split
  · simp [decode, decodeFrom, *]
  split
  · have h1 : ¬ 0xC0 + n / 0x40 < 0x80 := by omega
    have h2 : ¬ 0xC0 + n / 0x40 < 0xC2 := by omega
    have h3 : 0xC0 + n / 0x40 < 0xE0 := by omega
    have h4 : 0x80 + n % 0x40 ≤ 0xBF := by omega
    have h5 : (0xC0 + n / 0x40 - 0xC0) * 0x40 + (0x80 + n % 0x40) % 0x40 = n := by omega
    simp only [List.cons_append, List.nil_append, decode, decodeFrom, h1, if_false,
      Begun.ofByte?, h2, h3, if_true, Begun.admits, h4, decide_true, Bool.and_true,
      Nat.le_add_right, Begun.push, h5, hn]
  split
  · have h1 : ¬ 0xE0 + n / 0x1000 < 0x80 := by omega
    have h2 : ¬ 0xE0 + n / 0x1000 < 0xC2 := by omega
    have h3 : ¬ 0xE0 + n / 0x1000 < 0xE0 := by omega
    have h4 : 0xE0 + n / 0x1000 < 0xF0 := by omega
    have h5 : (if 0xE0 + n / 0x1000 = 0xE0 then 0xA0 else 0x80) ≤ 0x80 + n / 0x40 % 0x40 := by
      split <;> omega
    have h6 : 0x80 + n / 0x40 % 0x40 ≤ (if 0xE0 + n / 0x1000 = 0xED then 0x9F else 0xBF) := by
      split <;> omega
    have h7 : 0x80 + n % 0x40 ≤ 0xBF := by omega
    have h8 : ((0xE0 + n / 0x1000 - 0xE0) * 0x40 + (0x80 + n / 0x40 % 0x40) % 0x40) * 0x40 +
        (0x80 + n % 0x40) % 0x40 = n := by omega
    simp only [List.cons_append, List.nil_append, decode, decodeFrom, h1, if_false,
      Begun.ofByte?, h2, h3, h4, if_true, Begun.admits, h5, h6, h7, decide_true,
      Bool.and_true, Nat.le_add_right, Begun.push, Nat.reduceSub, h8, hn]
  · have h1 : ¬ 0xF0 + n / 0x40000 < 0x80 := by omega
    have h2 : ¬ 0xF0 + n / 0x40000 < 0xC2 := by omega
    have h3 : ¬ 0xF0 + n / 0x40000 < 0xE0 := by omega
    have h4 : ¬ 0xF0 + n / 0x40000 < 0xF0 := by omega
    have h4' : 0xF0 + n / 0x40000 < 0xF5 := by omega
    have h5 : (if 0xF0 + n / 0x40000 = 0xF0 then 0x90 else 0x80) ≤ 0x80 + n / 0x1000 % 0x40 := by
      split <;> omega
    have h6 : 0x80 + n / 0x1000 % 0x40 ≤ (if 0xF0 + n / 0x40000 = 0xF4 then 0x8F else 0xBF) := by
      split <;> omega
    have h7 : 0x80 + n / 0x40 % 0x40 ≤ 0xBF := by omega
    have h7' : 0x80 + n % 0x40 ≤ 0xBF := by omega
    have h8 : (((0xF0 + n / 0x40000 - 0xF0) * 0x40 + (0x80 + n / 0x1000 % 0x40) % 0x40) * 0x40 +
        (0x80 + n / 0x40 % 0x40) % 0x40) * 0x40 + (0x80 + n % 0x40) % 0x40 = n := by omega
    simp only [List.cons_append, List.nil_append, decode, decodeFrom, h1, if_false,
      Begun.ofByte?, h2, h3, h4, h4', if_true, Begun.admits, h5, h6, h7, h7', decide_true,
      Bool.and_true, Nat.le_add_right, Begun.push, Nat.reduceSub, h8, hn]

/-- A text survives being written as bytes. -/
theorem decode_utf8 (s : List Char) : decode (utf8 s) = s := by
  induction s with
  | nil => rfl
  | cons c s ih => rw [utf8, List.flatMap_cons, decode_bytesOf]; exact congrArg _ ih

end RowQuery.Text
