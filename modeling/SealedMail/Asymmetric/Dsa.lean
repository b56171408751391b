import SealedMail.Asymmetric.Nonce
import SealedMail.Arith.Modular

/-! # DSA

Signatures over a prime-order subgroup: with group `(p, q, g)`, private `x` and public
`y = g^x mod p`, a signature of a digest `z` (its leftmost bytes, as many as `q` has whole
bytes) is `r = (g^k mod p) mod q` and `s = k⁻¹ (z + x r) mod q`, the nonce `k` derived
from `x` and `z mod q` (both in their shortest byte form) by the generator of the digest's
hash.
-/

namespace SealedMail.Dsa

/-- The digest bytes a signature covers: at most as many as `q` has whole bytes. -/
def truncated (q : Nat) (digest : ByteArray) : Nat :=
  Bytes.toNatBE (digest.extract 0 ((Nat.log2 q + 1) / 8))

/-- Sign a digest made with `hash`. -/
def sign (p q g x : Nat) (hash : HashAlgorithm) (digest : ByteArray) : Option (Nat × Nat) := do
  let z := truncated q digest
  let rlen := (Nat.log2 q + 8) / 8
  let k ← Nonce.generate hash (Bytes.ofNatBE x rlen) (Bytes.ofNatBE (z % q) rlen) q
  let kinv ← Modular.inverse? k q
  let r := Modular.powMod g k p % q
  let s := kinv * ((z + x * r) % q) % q
  if r = 0 || s = 0 then none
  return (r, s)

/-- Whether `(r, s)` is a signature of a digest. -/
def verify (p q g y : Nat) (digest : ByteArray) (r s : Nat) : Bool :=
  if r = 0 || s = 0 || r ≥ q || s ≥ q || q = 0 then false
  else
    match Modular.inverse? s q with
    | none => false
    | some w =>
      let z := truncated q digest
      let u1 := z * w % q
      let u2 := r * w % q
      (Modular.powMod g u1 p * Modular.powMod y u2 p % p) % q == r

end SealedMail.Dsa
