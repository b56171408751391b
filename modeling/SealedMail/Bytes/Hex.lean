import SealedMail.Text.Escape

/-! # Hexadecimal text

Bytes are written as two hex digits each. Reading accepts both cases, refuses text of odd
length before looking at any digit, and otherwise names the first offending character and
its byte offset.
-/

namespace SealedMail.Hex

/-- The hex digit of a value below sixteen, lowercase. -/
def digit (n : Nat) : Char :=
  if n < 10 then Char.ofNat (48 + n) else Char.ofNat (87 + n)

/-- Lowercase hex of a byte string. -/
def encode (b : ByteArray) : String :=
  b.foldl (fun s x => (s.push (digit (x.toNat / 16))).push (digit (x.toNat % 16))) ""

/-- Uppercase hex of a byte string. -/
def encodeUpper (b : ByteArray) : String :=
  String.ofList ((encode b).toList.map Char.toUpper)

/-- Why a text is not hex. -/
inductive DecodeError where
  /-- The text has an odd number of bytes. -/
  | oddLength
  /-- The byte at `index`, read as a character, is no hex digit. -/
  | invalidCharacter (c : Char) (index : Nat)
deriving Repr, DecidableEq

/-- The wording of a hex error. -/
def DecodeError.message : DecodeError → String
  | .oddLength => "Odd number of digits"
  | .invalidCharacter c i => s!"Invalid character {Escape.char c} at position {i}"

/-- The value of one hex digit byte. -/
def value? (x : UInt8) : Option UInt8 :=
  if 48 ≤ x && x ≤ 57 then some (x - 48)
  else if 97 ≤ x && x ≤ 102 then some (x - 87)
  else if 65 ≤ x && x ≤ 70 then some (x - 55)
  else none

/-- Read hex text; both cases are accepted. -/
def decode (s : String) : Except DecodeError ByteArray := do
  let raw := s.toUTF8
  if raw.size % 2 != 0 then throw .oddLength
  let mut out := ByteArray.emptyWithCapacity (raw.size / 2)
  for i in [0:raw.size / 2] do
    let hi := raw.get! (2 * i)
    let lo := raw.get! (2 * i + 1)
    let some h := value? hi | throw (.invalidCharacter (Char.ofNat hi.toNat) (2 * i))
    let some l := value? lo | throw (.invalidCharacter (Char.ofNat lo.toNat) (2 * i + 1))
    out := out.push (h * 16 + l)
  return out

end SealedMail.Hex
