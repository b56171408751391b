import SealedMail.Cipher.Aes

/-! # Block cipher modes

Counter mode with a 128-bit big-endian counter that wraps around, cipher feedback mode as
OpenPGP uses it (whole-block feedback, the last block may be short), and the AES key wrap
with its default initial value.
-/

namespace SealedMail.Aes

/-- The 16-byte counter block for counter value `n`, wrapping at 2^128. -/
def counterBlock (n : Nat) : ByteArray :=
  ByteArray.mk ((List.range 16).reverse.map (fun i => ((n >>> (8 * i)) % 256).toUInt8)).toArray

/-- Counter mode: the input xored with the encrypted counters that start at `iv`. -/
def ctr (k : Key) (iv : ByteArray) (input : ByteArray) : ByteArray := Id.run do
  let start := iv.foldl (fun acc x => acc * 256 + x.toNat) 0
  let mut out := ByteArray.emptyWithCapacity input.size
  let blocks := (input.size + 15) / 16
  for b in [0:blocks] do
    let ks := encryptBlock k (counterBlock ((start + b) % Nat.pow 2 128))
    for j in [0:16] do
      let i := 16 * b + j
      if i < input.size then
        out := out.push (input.get! i ^^^ ks.get! j)
  return out

/-- Cipher feedback encryption with whole-block feedback. -/
def cfbEncrypt (k : Key) (iv : ByteArray) (input : ByteArray) : ByteArray := Id.run do
  let mut out := ByteArray.emptyWithCapacity input.size
  let mut fb := iv
  let blocks := (input.size + 15) / 16
  for b in [0:blocks] do
    let ks := encryptBlock k fb
    let mut next := ByteArray.emptyWithCapacity 16
    for j in [0:16] do
      let i := 16 * b + j
      if i < input.size then
        let c := input.get! i ^^^ ks.get! j
        out := out.push c
        next := next.push c
    fb := next
  return out

/-- Cipher feedback decryption with whole-block feedback. -/
def cfbDecrypt (k : Key) (iv : ByteArray) (input : ByteArray) : ByteArray := Id.run do
  let mut out := ByteArray.emptyWithCapacity input.size
  let mut fb := iv
  let blocks := (input.size + 15) / 16
  for b in [0:blocks] do
    let ks := encryptBlock k fb
    for j in [0:16] do
      let i := 16 * b + j
      if i < input.size then
        out := out.push (input.get! i ^^^ ks.get! j)
    fb := input.extract (16 * b) (16 * b + 16)
  return out

/-- The default initial value of the key wrap. -/
def wrapIv : ByteArray := ByteArray.mk (Array.replicate 8 0xa6)

/-- The 8-byte big-endian form of `t`. -/
def be64 (t : Nat) : ByteArray :=
  ByteArray.mk ((List.range 8).reverse.map (fun i => ((t >>> (8 * i)) % 256).toUInt8)).toArray

/-- Wrap key data whose length is a multiple of eight, at least sixteen. -/
def wrap (k : Key) (plain : ByteArray) : ByteArray := Id.run do
  let n := plain.size / 8
  let mut a := wrapIv
  let mut r : Array ByteArray := Array.ofFn (n := n) fun i => plain.extract (8 * i.val) (8 * i.val + 8)
  for j in [0:6] do
    for i in [0:n] do
      let b := encryptBlock k (a ++ r[i]!)
      let t := n * j + i + 1
      a := ByteArray.mk ((b.extract 0 8).data.zipWith (· ^^^ ·) (be64 t).data)
      r := r.set! i (b.extract 8 16)
  return r.foldl (· ++ ·) a

/-- Unwrap wrapped key data; `none` when the integrity value does not come out. -/
def unwrap (k : Key) (wrapped : ByteArray) : Option ByteArray := Id.run do
  if wrapped.size % 8 != 0 || wrapped.size < 24 then return none
  let n := wrapped.size / 8 - 1
  let mut a := wrapped.extract 0 8
  let mut r : Array ByteArray := Array.ofFn (n := n) fun i => wrapped.extract (8 * i.val + 8) (8 * i.val + 16)
  for step in [0:6] do
    let j := 5 - step
    for s in [0:n] do
      let i := n - 1 - s
      let t := n * j + i + 1
      let a' := ByteArray.mk (a.data.zipWith (· ^^^ ·) (be64 t).data)
      let b := decryptBlock k (a' ++ r[i]!)
      a := b.extract 0 8
      r := r.set! i (b.extract 8 16)
  if a.data == wrapIv.data then
    return some (r.foldl (· ++ ·) ByteArray.empty)
  else
    return none

end SealedMail.Aes
