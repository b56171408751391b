/-! # AES

The block cipher of FIPS 197 for 128-, 192- and 256-bit keys. Keys are expanded into
round-key words once; encryption uses the combined substitution and mixing tables, and
decryption walks the rounds backwards with the inverse steps.
-/

namespace SealedMail.Aes

/-- The substitution box. -/
def sbox : Array UInt8 := #[
  0x63, 0x7c, 0x77, 0x7b, 0xf2, 0x6b, 0x6f, 0xc5, 0x30, 0x01, 0x67, 0x2b, 0xfe, 0xd7, 0xab, 0x76,
  0xca, 0x82, 0xc9, 0x7d, 0xfa, 0x59, 0x47, 0xf0, 0xad, 0xd4, 0xa2, 0xaf, 0x9c, 0xa4, 0x72, 0xc0,
  0xb7, 0xfd, 0x93, 0x26, 0x36, 0x3f, 0xf7, 0xcc, 0x34, 0xa5, 0xe5, 0xf1, 0x71, 0xd8, 0x31, 0x15,
  0x04, 0xc7, 0x23, 0xc3, 0x18, 0x96, 0x05, 0x9a, 0x07, 0x12, 0x80, 0xe2, 0xeb, 0x27, 0xb2, 0x75,
  0x09, 0x83, 0x2c, 0x1a, 0x1b, 0x6e, 0x5a, 0xa0, 0x52, 0x3b, 0xd6, 0xb3, 0x29, 0xe3, 0x2f, 0x84,
  0x53, 0xd1, 0x00, 0xed, 0x20, 0xfc, 0xb1, 0x5b, 0x6a, 0xcb, 0xbe, 0x39, 0x4a, 0x4c, 0x58, 0xcf,
  0xd0, 0xef, 0xaa, 0xfb, 0x43, 0x4d, 0x33, 0x85, 0x45, 0xf9, 0x02, 0x7f, 0x50, 0x3c, 0x9f, 0xa8,
  0x51, 0xa3, 0x40, 0x8f, 0x92, 0x9d, 0x38, 0xf5, 0xbc, 0xb6, 0xda, 0x21, 0x10, 0xff, 0xf3, 0xd2,
  0xcd, 0x0c, 0x13, 0xec, 0x5f, 0x97, 0x44, 0x17, 0xc4, 0xa7, 0x7e, 0x3d, 0x64, 0x5d, 0x19, 0x73,
  0x60, 0x81, 0x4f, 0xdc, 0x22, 0x2a, 0x90, 0x88, 0x46, 0xee, 0xb8, 0x14, 0xde, 0x5e, 0x0b, 0xdb,
  0xe0, 0x32, 0x3a, 0x0a, 0x49, 0x06, 0x24, 0x5c, 0xc2, 0xd3, 0xac, 0x62, 0x91, 0x95, 0xe4, 0x79,
  0xe7, 0xc8, 0x37, 0x6d, 0x8d, 0xd5, 0x4e, 0xa9, 0x6c, 0x56, 0xf4, 0xea, 0x65, 0x7a, 0xae, 0x08,
  0xba, 0x78, 0x25, 0x2e, 0x1c, 0xa6, 0xb4, 0xc6, 0xe8, 0xdd, 0x74, 0x1f, 0x4b, 0xbd, 0x8b, 0x8a,
  0x70, 0x3e, 0xb5, 0x66, 0x48, 0x03, 0xf6, 0x0e, 0x61, 0x35, 0x57, 0xb9, 0x86, 0xc1, 0x1d, 0x9e,
  0xe1, 0xf8, 0x98, 0x11, 0x69, 0xd9, 0x8e, 0x94, 0x9b, 0x1e, 0x87, 0xe9, 0xce, 0x55, 0x28, 0xdf,
  0x8c, 0xa1, 0x89, 0x0d, 0xbf, 0xe6, 0x42, 0x68, 0x41, 0x99, 0x2d, 0x0f, 0xb0, 0x54, 0xbb, 0x16]

/-- The inverse substitution box. -/
def invSbox : Array UInt8 := Id.run do
  let mut inv := Array.replicate 256 (0 : UInt8)
  for i in [0:256] do
    inv := inv.set! (sbox[i]!).toNat i.toUInt8
  return inv

/-- Multiplication by x in GF(2^8) modulo the AES polynomial. -/
@[inline] def xtime (x : UInt8) : UInt8 :=
  (x <<< 1) ^^^ (if x &&& 0x80 != 0 then 0x1b else 0)

/-- Multiplication in GF(2^8). -/
def gmul (a b : UInt8) : UInt8 := Id.run do
  let mut p : UInt8 := 0
  let mut x := a
  let mut y := b
  for _ in [0:8] do
    if y &&& 1 != 0 then p := p ^^^ x
    x := xtime x
    y := y >>> 1
  return p

/-- A word from four bytes, the first most significant. -/
@[inline] def pack (a b c d : UInt8) : UInt32 :=
  (a.toUInt32 <<< 24) ||| (b.toUInt32 <<< 16) ||| (c.toUInt32 <<< 8) ||| d.toUInt32

/-- Byte `k` of a word, counting from the most significant. -/
@[inline] def byteOf (w : UInt32) (k : UInt32) : UInt8 := (w >>> (24 - 8 * k)).toUInt8

/-- Rotate a word right by eight bits. -/
@[inline] def rotr8 (w : UInt32) : UInt32 := (w >>> 8) ||| (w <<< 24)

/-- Substitution followed by column mixing, for one input byte in the first row. -/
def te0 : Array UInt32 := Array.ofFn (n := 256) fun i =>
  let s := sbox[i.val]!
  pack (xtime s) s s (xtime s ^^^ s)

/-- `te0` rotated for the second row. -/
def te1 : Array UInt32 := te0.map rotr8

/-- `te0` rotated for the third row. -/
def te2 : Array UInt32 := te1.map rotr8

/-- `te0` rotated for the fourth row. -/
def te3 : Array UInt32 := te2.map rotr8

/-- Apply the S-box to each byte of a word. -/
@[inline] def subWord (w : UInt32) : UInt32 :=
  pack sbox[(byteOf w 0).toNat]! sbox[(byteOf w 1).toNat]! sbox[(byteOf w 2).toNat]! sbox[(byteOf w 3).toNat]!

/-- An expanded key: the round-key words and the number of rounds. -/
structure Key where
  /-- Round-key words, four per round plus four. -/
  words : Array UInt32
  /-- Number of rounds: 10, 12 or 14. -/
  rounds : Nat

/-- Expand a 16-, 24- or 32-byte key. -/
def expand (key : ByteArray) : Key := Id.run do
  let nk := key.size / 4
  let rounds := nk + 6
  let total := 4 * (rounds + 1)
  let mut w : Array UInt32 := Array.emptyWithCapacity total
  for i in [0:nk] do
    w := w.push (pack (key.get! (4 * i)) (key.get! (4 * i + 1)) (key.get! (4 * i + 2)) (key.get! (4 * i + 3)))
  let mut rcon : UInt8 := 1
  for i in [nk:total] do
    let mut t := w[i-1]!
    if i % nk == 0 then
      t := subWord ((t <<< 8) ||| (t >>> 24)) ^^^ (rcon.toUInt32 <<< 24)
      rcon := xtime rcon
    else if nk > 6 && i % nk == 4 then
      t := subWord t
    w := w.push (w[i-nk]! ^^^ t)
  return ⟨w, rounds⟩

/-- The big-endian word at offset `i`. -/
@[inline] def wordAt (b : ByteArray) (i : Nat) : UInt32 :=
  pack (b.get! i) (b.get! (i + 1)) (b.get! (i + 2)) (b.get! (i + 3))

/-- Append a word's bytes, most significant first. -/
@[inline] def pushWord (out : ByteArray) (w : UInt32) : ByteArray :=
  out.push (w >>> 24).toUInt8 |>.push (w >>> 16).toUInt8 |>.push (w >>> 8).toUInt8 |>.push w.toUInt8

/-- Encrypt the 16 bytes of `input` at offset `off`, appending the result to `out`. -/
def encryptBlockInto (k : Key) (input : ByteArray) (off : Nat) (out : ByteArray) : ByteArray := Id.run do
  let rk := k.words
  let mut s0 := wordAt input off ^^^ rk[0]!
  let mut s1 := wordAt input (off + 4) ^^^ rk[1]!
  let mut s2 := wordAt input (off + 8) ^^^ rk[2]!
  let mut s3 := wordAt input (off + 12) ^^^ rk[3]!
  for r in [1:k.rounds] do
    let t0 := te0[(s0 >>> 24).toNat]! ^^^ te1[((s1 >>> 16) &&& 0xff).toNat]! ^^^
      te2[((s2 >>> 8) &&& 0xff).toNat]! ^^^ te3[(s3 &&& 0xff).toNat]! ^^^ rk[4 * r]!
    let t1 := te0[(s1 >>> 24).toNat]! ^^^ te1[((s2 >>> 16) &&& 0xff).toNat]! ^^^
      te2[((s3 >>> 8) &&& 0xff).toNat]! ^^^ te3[(s0 &&& 0xff).toNat]! ^^^ rk[4 * r + 1]!
    let t2 := te0[(s2 >>> 24).toNat]! ^^^ te1[((s3 >>> 16) &&& 0xff).toNat]! ^^^
      te2[((s0 >>> 8) &&& 0xff).toNat]! ^^^ te3[(s1 &&& 0xff).toNat]! ^^^ rk[4 * r + 2]!
    let t3 := te0[(s3 >>> 24).toNat]! ^^^ te1[((s0 >>> 16) &&& 0xff).toNat]! ^^^
      te2[((s1 >>> 8) &&& 0xff).toNat]! ^^^ te3[(s2 &&& 0xff).toNat]! ^^^ rk[4 * r + 3]!
    s0 := t0
    s1 := t1
    s2 := t2
    s3 := t3
  let last := 4 * k.rounds
  let f (a b c d : UInt32) (w : UInt32) : UInt32 :=
    pack sbox[(a >>> 24).toNat]! sbox[((b >>> 16) &&& 0xff).toNat]!
      sbox[((c >>> 8) &&& 0xff).toNat]! sbox[(d &&& 0xff).toNat]! ^^^ w
  let o := pushWord out (f s0 s1 s2 s3 rk[last]!)
  let o := pushWord o (f s1 s2 s3 s0 rk[last + 1]!)
  let o := pushWord o (f s2 s3 s0 s1 rk[last + 2]!)
  return pushWord o (f s3 s0 s1 s2 rk[last + 3]!)

/-- Encrypt one 16-byte block. -/
def encryptBlock (k : Key) (block : ByteArray) : ByteArray :=
  encryptBlockInto k block 0 (ByteArray.emptyWithCapacity 16)

/-- Inverse column mixing of one column held as four bytes. -/
def invMixColumn (a b c d : UInt8) : UInt8 × UInt8 × UInt8 × UInt8 :=
  (gmul a 14 ^^^ gmul b 11 ^^^ gmul c 13 ^^^ gmul d 9,
   gmul a 9 ^^^ gmul b 14 ^^^ gmul c 11 ^^^ gmul d 13,
   gmul a 13 ^^^ gmul b 9 ^^^ gmul c 14 ^^^ gmul d 11,
   gmul a 11 ^^^ gmul b 13 ^^^ gmul c 9 ^^^ gmul d 14)

/-- Decrypt one 16-byte block. -/
def decryptBlock (k : Key) (block : ByteArray) : ByteArray := Id.run do
  let rk := k.words
  -- the state as sixteen bytes in column order
  let mut st : Array UInt8 := Array.ofFn (n := 16) fun i => block.get! i.val
  let addKey (st : Array UInt8) (r : Nat) : Array UInt8 :=
    Array.ofFn (n := 16) fun i =>
      st[i.val]! ^^^ byteOf rk[4 * r + i.val / 4]! (i.val % 4).toUInt32
  st := addKey st k.rounds
  for step in [0:k.rounds] do
    let r := k.rounds - 1 - step
    -- inverse shift rows: row j moves right by j
    let shifted : Array UInt8 := Array.ofFn (n := 16) fun i =>
      let col := i.val / 4
      let row := i.val % 4
      st[4 * ((col + 4 - row) % 4) + row]!
    let subbed := shifted.map (fun x => invSbox[x.toNat]!)
    st := addKey subbed r
    if r > 0 then
      let mut mixed : Array UInt8 := Array.emptyWithCapacity 16
      for c in [0:4] do
        let (a, b, cc, d) := invMixColumn st[4 * c]! st[4 * c + 1]! st[4 * c + 2]! st[4 * c + 3]!
        mixed := mixed.push a |>.push b |>.push cc |>.push d
      st := mixed
  return ByteArray.mk st

end SealedMail.Aes
