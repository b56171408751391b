import SealedMail.Digest.Algorithm

/-! # scrypt

The memory-hard key derivation scrypt with block size r = 8 and one lane: PBKDF2 over
HMAC-SHA-256 spreads the password over 1024 bytes, `romix` fills a table of `n` states with
the Salsa20/8 block mix and then reads it back in a data-dependent order, and a second
PBKDF2 pass condenses the result.
-/

namespace SealedMail.Scrypt

/-- PBKDF2 with HMAC-SHA-256, `iterations` rounds, `len` bytes of output. -/
def pbkdf2 (password salt : ByteArray) (iterations len : Nat) : ByteArray := Id.run do
  let mut out := ByteArray.empty
  let blocks := (len + 31) / 32
  for i in [1:blocks + 1] do
    let mut u := HashAlgorithm.sha256.hmac password (salt ++ ByteArray.mk #[
      (i >>> 24).toUInt8, (i >>> 16).toUInt8, (i >>> 8).toUInt8, i.toUInt8])
    let mut t := u
    for _ in [1:iterations] do
      u := HashAlgorithm.sha256.hmac password u
      t := ByteArray.mk (t.data.zipWith (· ^^^ ·) u.data)
    out := out ++ t
  return out.extract 0 len

/-- Rotate a word left. -/
@[inline] def rotl (x n : UInt32) : UInt32 := (x <<< n) ||| (x >>> (32 - n))

/-- The Salsa20/8 core applied to the sixteen words `x` starting at `off`, the result
added word by word to its input and written back in place. -/
def salsa8 (x : Array UInt32) (off : Nat) : Array UInt32 := Id.run do
  let i0 := x[off]!
  let i1 := x[off + 1]!
  let i2 := x[off + 2]!
  let i3 := x[off + 3]!
  let i4 := x[off + 4]!
  let i5 := x[off + 5]!
  let i6 := x[off + 6]!
  let i7 := x[off + 7]!
  let i8 := x[off + 8]!
  let i9 := x[off + 9]!
  let i10 := x[off + 10]!
  let i11 := x[off + 11]!
  let i12 := x[off + 12]!
  let i13 := x[off + 13]!
  let i14 := x[off + 14]!
  let i15 := x[off + 15]!
  let mut a0 := i0
  let mut a1 := i1
  let mut a2 := i2
  let mut a3 := i3
  let mut a4 := i4
  let mut a5 := i5
  let mut a6 := i6
  let mut a7 := i7
  let mut a8 := i8
  let mut a9 := i9
  let mut a10 := i10
  let mut a11 := i11
  let mut a12 := i12
  let mut a13 := i13
  let mut a14 := i14
  let mut a15 := i15
  for _ in [0:4] do
    -- columns
    a4 := a4 ^^^ rotl (a0 + a12) 7
    a8 := a8 ^^^ rotl (a4 + a0) 9
    a12 := a12 ^^^ rotl (a8 + a4) 13
    a0 := a0 ^^^ rotl (a12 + a8) 18
    a9 := a9 ^^^ rotl (a5 + a1) 7
    a13 := a13 ^^^ rotl (a9 + a5) 9
    a1 := a1 ^^^ rotl (a13 + a9) 13
    a5 := a5 ^^^ rotl (a1 + a13) 18
    a14 := a14 ^^^ rotl (a10 + a6) 7
    a2 := a2 ^^^ rotl (a14 + a10) 9
    a6 := a6 ^^^ rotl (a2 + a14) 13
    a10 := a10 ^^^ rotl (a6 + a2) 18
    a3 := a3 ^^^ rotl (a15 + a11) 7
    a7 := a7 ^^^ rotl (a3 + a15) 9
    a11 := a11 ^^^ rotl (a7 + a3) 13
    a15 := a15 ^^^ rotl (a11 + a7) 18
    -- rows
    a1 := a1 ^^^ rotl (a0 + a3) 7
    a2 := a2 ^^^ rotl (a1 + a0) 9
    a3 := a3 ^^^ rotl (a2 + a1) 13
    a0 := a0 ^^^ rotl (a3 + a2) 18
    a6 := a6 ^^^ rotl (a5 + a4) 7
    a7 := a7 ^^^ rotl (a6 + a5) 9
    a4 := a4 ^^^ rotl (a7 + a6) 13
    a5 := a5 ^^^ rotl (a4 + a7) 18
    a11 := a11 ^^^ rotl (a10 + a9) 7
    a8 := a8 ^^^ rotl (a11 + a10) 9
    a9 := a9 ^^^ rotl (a8 + a11) 13
    a10 := a10 ^^^ rotl (a9 + a8) 18
    a12 := a12 ^^^ rotl (a15 + a14) 7
    a13 := a13 ^^^ rotl (a12 + a15) 9
    a14 := a14 ^^^ rotl (a13 + a12) 13
    a15 := a15 ^^^ rotl (a14 + a13) 18
  let x := x.set! off (a0 + i0) |>.set! (off + 1) (a1 + i1) |>.set! (off + 2) (a2 + i2)
    |>.set! (off + 3) (a3 + i3) |>.set! (off + 4) (a4 + i4) |>.set! (off + 5) (a5 + i5)
    |>.set! (off + 6) (a6 + i6) |>.set! (off + 7) (a7 + i7) |>.set! (off + 8) (a8 + i8)
    |>.set! (off + 9) (a9 + i9) |>.set! (off + 10) (a10 + i10) |>.set! (off + 11) (a11 + i11)
    |>.set! (off + 12) (a12 + i12) |>.set! (off + 13) (a13 + i13) |>.set! (off + 14) (a14 + i14)
  return x.set! (off + 15) (a15 + i15)

/-- The block mix of sixteen 64-byte blocks (256 words): each block is xored with the
previous output and hashed, and the even outputs are placed before the odd ones. -/
def blockMix (b : Array UInt32) : Array UInt32 := Id.run do
  -- `t` holds the running 16-word state in its first sixteen words
  let mut t : Array UInt32 := Array.replicate 16 0
  for j in [0:16] do
    t := t.set! j b[240 + j]!
  let mut y : Array UInt32 := Array.replicate 256 0
  for i in [0:16] do
    for j in [0:16] do
      t := t.set! j (t[j]! ^^^ b[16 * i + j]!)
    t := salsa8 t 0
    let dest := if i % 2 == 0 then 16 * (i / 2) else 128 + 16 * (i / 2)
    for j in [0:16] do
      y := y.set! (dest + j) t[j]!
  return y

/-- The little-endian words of a byte string whose length is a multiple of four. -/
def wordsLE (b : ByteArray) : Array UInt32 :=
  Array.ofFn (n := b.size / 4) fun i =>
    let k := 4 * i.val
    (b.get! k).toUInt32 ||| ((b.get! (k + 1)).toUInt32 <<< 8) |||
      ((b.get! (k + 2)).toUInt32 <<< 16) ||| ((b.get! (k + 3)).toUInt32 <<< 24)

/-- The little-endian bytes of words. -/
def bytesLE (w : Array UInt32) : ByteArray :=
  w.foldl (fun (o : ByteArray) (x : UInt32) => o.push x.toUInt8 |>.push (x >>> 8).toUInt8
    |>.push (x >>> 16).toUInt8 |>.push (x >>> 24).toUInt8) (ByteArray.emptyWithCapacity (4 * w.size))

/-- The sequential memory-hard mix over `n` table entries. -/
def romix (b : Array UInt32) (n : Nat) : Array UInt32 := Id.run do
  let mut v : Array UInt32 := Array.emptyWithCapacity (256 * n)
  let mut x := b
  for _ in [0:n] do
    v := v ++ x
    x := blockMix x
  for _ in [0:n] do
    let j := (x[240]!).toNat % n
    for k in [0:256] do
      x := x.set! k (x[k]! ^^^ v[256 * j + k]!)
    x := blockMix x
  return x

/-- scrypt with cost `n`, r = 8, one lane and a 32-byte output. -/
def derive (password salt : ByteArray) (n : Nat) : ByteArray :=
  let b := pbkdf2 password salt 1 1024
  let x := romix (wordsLE b) n
  pbkdf2 password (bytesLE x) 1 32

end SealedMail.Scrypt
