import SealedMail.Asymmetric.Nonce
import SealedMail.Curve.Weierstrass

/-! # ECDSA

Signatures on a prime-field curve with base point `G` of order `n`: the digest is fitted
to the field size (cut to its leftmost bytes, or padded with zeros on the left) and reduced
modulo `n` to `z`; a signature is `r = (k·G).x mod n` and `s = k⁻¹ (z + r d) mod n`, the
nonce derived from the private scalar and the fitted digest by the generator of the
curve's own hash.
-/

namespace SealedMail.Ecdsa

/-- The digest fitted to the field size, if it is at least half of it. -/
def fitted (c : WeierstrassCurve) (digest : ByteArray) : Option ByteArray :=
  if 2 * digest.size < c.size then none
  else if digest.size ≥ c.size then some (digest.extract 0 c.size)
  else some (Bytes.replicate (c.size - digest.size) 0 ++ digest)

/-- The public point of an uncompressed encoding `04 ‖ x ‖ y`, if it lies on the curve. -/
def decodePoint (c : WeierstrassCurve) (b : ByteArray) : Option (Nat × Nat) :=
  if b.size != 2 * c.size + 1 || b.get! 0 != 4 then none
  else
    let x := Bytes.toNatBE (b.extract 1 (1 + c.size))
    let y := Bytes.toNatBE (b.extract (1 + c.size) b.size)
    if c.onCurve x y then some (x, y) else none

/-- The uncompressed encoding of a point. -/
def encodePoint (c : WeierstrassCurve) (x y : Nat) : ByteArray :=
  ByteArray.mk #[4] ++ Bytes.ofNatBE x c.size ++ Bytes.ofNatBE y c.size

/-- Sign a digest with the private scalar `d`, the nonce generator using `nonceHash`. -/
def sign (c : WeierstrassCurve) (nonceHash : HashAlgorithm) (d : Nat) (digest : ByteArray) :
    Option (Nat × Nat) := do
  let zb ← fitted c digest
  let z := Bytes.toNatBE zb % c.n
  let k ← Nonce.generate nonceHash (Bytes.ofNatBE d c.size) zb c.n
  let (x, _) ← c.toAffine (c.mul k c.base)
  let r := x % c.n
  let s := Modular.inversePrime k c.n * ((z + r * d) % c.n) % c.n
  if r = 0 || s = 0 then none
  return (r, s)

/-- Whether `(r, s)` is a signature of a digest under the public point `q`. -/
def verify (c : WeierstrassCurve) (q : Nat × Nat) (digest : ByteArray) (r s : Nat) : Bool :=
  match fitted c digest with
  | none => false
  | some zb =>
    if r = 0 || s = 0 || r ≥ c.n || s ≥ c.n then false
    else
      let z := Bytes.toNatBE zb % c.n
      let w := Modular.inversePrime s c.n
      let pt := c.add (c.mul (z * w % c.n) c.base) (c.mul (r * w % c.n) (WeierstrassCurve.ofAffine q.1 q.2))
      match c.toAffine pt with
      | none => false
      | some (x, _) => x % c.n == r

end SealedMail.Ecdsa
