import SealedMail.Digest.Algorithm
import SealedMail.Bytes.Basic

/-! # Deterministic nonces

The per-signature secret of DSA and ECDSA derived from the private key and the message
digest with a deterministic HMAC-based generator: the generator is seeded with the key and
digest bytes, and its output blocks are read as a number until one falls in `[1, q)`.
-/

namespace SealedMail.Nonce

/-- The generator state: key and value. -/
structure Drbg where
  h : HashAlgorithm
  k : ByteArray
  v : ByteArray

/-- A generator seeded with the given material. -/
def Drbg.seed (h : HashAlgorithm) (material : ByteArray) : Drbg :=
  let k := Bytes.replicate h.size 0
  let v := Bytes.replicate h.size 1
  let k := h.hmac k (v ++ ByteArray.mk #[0] ++ material)
  let v := h.hmac k v
  let k := h.hmac k (v ++ ByteArray.mk #[1] ++ material)
  let v := h.hmac k v
  ⟨h, k, v⟩

/-- `len` output bytes and the state after them. -/
def Drbg.generate (g : Drbg) (len : Nat) : ByteArray × Drbg :=
  let rounds := (len + g.h.size - 1) / g.h.size
  let (out, v) := (List.range rounds).foldl (fun (acc : ByteArray × ByteArray) _ =>
    let v := g.h.hmac g.k acc.2
    (acc.1 ++ v, v)) (ByteArray.empty, g.v)
  let k := g.h.hmac g.k (v ++ ByteArray.mk #[0])
  let v := g.h.hmac k v
  (out.extract 0 len, ⟨g.h, k, v⟩)

/-- The first output, read as a number of `len` bytes shifted right by `shift` bits, that
lies in `[1, q)`; at most `tries` outputs are drawn. -/
def pick (g : Drbg) (len shift q : Nat) : Nat → Option Nat
  | 0 => none
  | tries + 1 =>
    let (out, g) := g.generate len
    let k := Bytes.toNatBE out >>> shift
    if 0 < k && k < q then some k else pick g len shift q tries

/-- The nonce for private key bytes `x` and digest bytes `h` modulo `q`. -/
def generate (hash : HashAlgorithm) (x h : ByteArray) (q : Nat) : Option Nat :=
  let qlen := Nat.log2 q + 1
  let len := (qlen + 7) / 8
  pick (Drbg.seed hash (x ++ h)) len (8 * len - qlen) q 64

end SealedMail.Nonce
