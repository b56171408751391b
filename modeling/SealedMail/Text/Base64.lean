/-! # Base64

The standard alphabet with `=` padding. Writing emits canonical padding; strict reading
accepts exactly canonical text and reports the first fault: a byte outside the alphabet
(or padding before the last quad) by its offset, a lone trailing symbol as a bad length,
padding that does not complete the quad, and a last symbol whose unused bits are set.
-/

namespace SealedMail.Base64

/-- The sixty-four symbols in order of value. -/
def alphabet : Array Char :=
  "ABCDEFGHIJKLMNOPQRSTUVWXYZabcdefghijklmnopqrstuvwxyz0123456789+/".toList.toArray

/-- The value of a symbol byte, if it is in the alphabet. -/
def value? (x : UInt8) : Option Nat :=
  let n := x.toNat
  if 65 ≤ n && n ≤ 90 then some (n - 65)
  else if 97 ≤ n && n ≤ 122 then some (n - 71)
  else if 48 ≤ n && n ≤ 57 then some (n + 4)
  else if n == 43 then some 62
  else if n == 47 then some 63
  else none

/-- The symbol of a six-bit value. -/
@[inline] def symbol (v : Nat) : Char := alphabet.getD (v % 64) 'A'

/-- Base64 text of a byte string, padded to whole quads. -/
def encode (b : ByteArray) : String := Id.run do
  let mut out := ""
  let full := b.size / 3
  for i in [0:full] do
    let n := (b.get! (3 * i)).toNat * 65536 + (b.get! (3 * i + 1)).toNat * 256 + (b.get! (3 * i + 2)).toNat
    out := out.push (symbol (n / 262144)) |>.push (symbol (n / 4096)) |>.push (symbol (n / 64)) |>.push (symbol n)
  let rest := b.size - 3 * full
  if rest == 1 then
    let n := (b.get! (3 * full)).toNat * 65536
    out := out.push (symbol (n / 262144)) |>.push (symbol (n / 4096)) |>.push '=' |>.push '='
  else if rest == 2 then
    let n := (b.get! (3 * full)).toNat * 65536 + (b.get! (3 * full + 1)).toNat * 256
    out := out.push (symbol (n / 262144)) |>.push (symbol (n / 4096)) |>.push (symbol (n / 64)) |>.push '='
  return out

/-- Why a text is not canonical base64. -/
inductive DecodeError where
  /-- A byte that may not stand at this offset. -/
  | invalidByte (offset : Nat) (byte : UInt8)
  /-- The symbols end with a lone six-bit group. -/
  | invalidLength (len : Nat)
  /-- The last symbol carries bits that no byte uses. -/
  | invalidLastSymbol (offset : Nat) (byte : UInt8)
  /-- Padding is missing or does not complete the last quad. -/
  | invalidPadding
deriving Repr, DecidableEq

/-- The wording of a base64 error. -/
def DecodeError.message : DecodeError → String
  | .invalidByte i b => s!"Invalid symbol {b}, offset {i}."
  | .invalidLength _ => "Invalid input length."
  | .invalidLastSymbol i b => s!"Invalid last symbol {b}, offset {i}."
  | .invalidPadding => "Invalid padding"

/-- Append the bytes that `count` six-bit values packed into `acc` stand for. -/
def emitGroup (out : ByteArray) (acc count : Nat) : ByteArray :=
  let n := acc <<< (6 * (4 - count))
  let bytes := (count * 6) / 8
  (List.range bytes).foldl (fun o k => o.push ((n >>> (16 - 8 * k)) % 256).toUInt8) out

/-- Read the final (possibly padded, possibly short) quad that starts at `start`. -/
def decodeSuffix (raw : ByteArray) (start : Nat) (out : ByteArray) : Except DecodeError ByteArray := do
  let mut morsels : Array Nat := #[]
  let mut pads := 0
  let mut firstPad := 0
  let mut last : UInt8 := 0
  for k in [0:raw.size - start] do
    let b := raw.get! (start + k)
    if b == 61 then
      if k < 2 then throw (.invalidByte (start + k) b)
      if pads == 0 then firstPad := k
      pads := pads + 1
    else
      if pads > 0 then throw (.invalidByte (start + firstPad) 61)
      last := b
      match value? b with
      | none => throw (.invalidByte (start + k) b)
      | some v => morsels := morsels.push v
  if raw.size > 0 && morsels.size < 2 then throw (.invalidLength (start + morsels.size))
  if (pads + morsels.size) % 4 != 0 then throw .invalidPadding
  let acc := morsels.foldl (fun a v => a * 64 + v) 0
  let count := morsels.size
  -- bits of the last symbol that no output byte uses must be zero
  let unused := (count * 6) % 8
  if count > 0 && acc % (Nat.pow 2 unused) != 0 then
    throw (.invalidLastSymbol (start + count - 1) last)
  return emitGroup out acc count

/-- Read canonical base64 symbols given as bytes. -/
def decodeBytes (raw : ByteArray) : Except DecodeError ByteArray := do
  let rem := raw.size % 4
  if rem == 1 then
    let lastByte := raw.get! (raw.size - 1)
    if lastByte != 61 && (value? lastByte).isNone then
      throw (.invalidByte (raw.size - 1) lastByte)
  let body := if rem == 0 then raw.size - min raw.size 4 else raw.size - rem
  let mut out := ByteArray.emptyWithCapacity (raw.size / 4 * 3)
  for q in [0:body / 4] do
    let mut acc := 0
    for k in [0:4] do
      let b := raw.get! (4 * q + k)
      match value? b with
      | none => throw (.invalidByte (4 * q + k) b)
      | some v => acc := acc * 64 + v
    out := emitGroup out acc 4
  decodeSuffix raw body out

/-- Read canonical base64 text. -/
def decode (s : String) : Except DecodeError ByteArray := decodeBytes s.toUTF8

end SealedMail.Base64
