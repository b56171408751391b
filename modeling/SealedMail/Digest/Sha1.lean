/-! # SHA-1

The message is padded with a one bit, zeros and its 64-bit bit length to whole 64-byte
blocks; each block is expanded to eighty words and folded into five 32-bit chaining words.
-/

namespace SealedMail.Sha1

/-- The big-endian 32-bit word at byte offset `i`. -/
@[inline] def word (b : ByteArray) (i : Nat) : UInt32 :=
  ((b.get! i).toUInt32 <<< 24) ||| ((b.get! (i + 1)).toUInt32 <<< 16) |||
    ((b.get! (i + 2)).toUInt32 <<< 8) ||| (b.get! (i + 3)).toUInt32

/-- Rotate a word left. -/
@[inline] def rotl (x : UInt32) (n : UInt32) : UInt32 := (x <<< n) ||| (x >>> (32 - n))

/-- The message followed by its padding and 64-bit big-endian bit length. -/
def pad (msg : ByteArray) : ByteArray := Id.run do
  let len := msg.size
  let zeros := (119 - len % 64) % 64
  let mut out := msg.push 0x80
  for _ in [0:zeros] do
    out := out.push 0
  let bits := 8 * len
  for k in [0:8] do
    out := out.push ((bits >>> (8 * (7 - k))) % 256).toUInt8
  return out

/-- Fold one 64-byte block at offset `off` into the chaining words. -/
def compress (h : Array UInt32) (b : ByteArray) (off : Nat) : Array UInt32 := Id.run do
  let mut w : Array UInt32 := Array.emptyWithCapacity 80
  for i in [0:16] do
    w := w.push (word b (off + 4 * i))
  for i in [16:80] do
    w := w.push (rotl (w[i-3]! ^^^ w[i-8]! ^^^ w[i-14]! ^^^ w[i-16]!) 1)
  let mut a := h[0]!
  let mut bb := h[1]!
  let mut c := h[2]!
  let mut d := h[3]!
  let mut e := h[4]!
  for i in [0:80] do
    let (f, k) :=
      if i < 20 then ((bb &&& c) ||| ((~~~bb) &&& d), (0x5A827999 : UInt32))
      else if i < 40 then (bb ^^^ c ^^^ d, (0x6ED9EBA1 : UInt32))
      else if i < 60 then ((bb &&& c) ||| (bb &&& d) ||| (c &&& d), (0x8F1BBCDC : UInt32))
      else (bb ^^^ c ^^^ d, (0xCA62C1D6 : UInt32))
    let t := rotl a 5 + f + e + k + w[i]!
    e := d
    d := c
    c := rotl bb 30
    bb := a
    a := t
  return #[h[0]! + a, h[1]! + bb, h[2]! + c, h[3]! + d, h[4]! + e]

/-- The 20-byte digest of a message. -/
def hash (msg : ByteArray) : ByteArray := Id.run do
  let p := pad msg
  let mut h : Array UInt32 := #[0x67452301, 0xEFCDAB89, 0x98BADCFE, 0x10325476, 0xC3D2E1F0]
  for blk in [0:p.size / 64] do
    h := compress h p (64 * blk)
  let mut out := ByteArray.emptyWithCapacity 20
  for x in h do
    out := out.push (x >>> 24).toUInt8 |>.push (x >>> 16).toUInt8 |>.push (x >>> 8).toUInt8 |>.push x.toUInt8
  return out

end SealedMail.Sha1
