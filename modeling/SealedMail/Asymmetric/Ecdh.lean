import SealedMail.Curve.Montgomery
import SealedMail.Curve.Weierstrass
import SealedMail.Cipher.Modes
import SealedMail.Packet.Codes
import SealedMail.Key.Algorithm

/-! # Elliptic-curve session key wrapping

A session key is sent to an ECDH key by agreeing on a shared point with an ephemeral key,
deriving a key-encryption key from its `x` coordinate, and wrapping the padded session key
with the AES key wrap. The derivation hashes `00 00 00 01`, the shared value and the
recipient's parameters: curve, algorithm, KDF hash and cipher, the text "Anonymous Sender"
padded to twenty bytes, and the recipient's fingerprint.
-/

namespace SealedMail.Ecdh

/-- The recipient parameters the key derivation covers. -/
def param (curve : Curve) (hash : HashCode) (cipher : CipherCode) (fingerprint : ByteArray) : ByteArray :=
  ByteArray.mk #[curve.oid.size.toUInt8] ++ curve.oid ++
    ByteArray.mk #[18, 3, 1, hash.toNat.toUInt8, cipher.toNat.toUInt8] ++
    "Anonymous Sender    ".toUTF8 ++ fingerprint

/-- The key-encryption key for a shared value, if hash and cipher are computable. -/
def kek (hash : HashCode) (cipher : CipherCode) (shared param : ByteArray) : Option ByteArray := do
  let h ← hash.toAlgorithm?
  let _ ← cipher.toAlgorithm?
  return (h.digest (ByteArray.mk #[0, 0, 0, 1] ++ shared ++ param)).extract 0 cipher.keySize

/-- The Weierstrass curve of a curve name, for the ones with a group law here. -/
def weierstrass? : Curve → Option WeierstrassCurve
  | .p256 => some .p256
  | .p384 => some .p384
  | .secp256k1 => some .secp256k1
  | _ => none

/-- The shared value of a recipient secret and an ephemeral public point. -/
def shared (curve : Curve) (secret point : ByteArray) : Option ByteArray :=
  match curve with
  | .curve25519 =>
    if point.size != 33 || point.get! 0 != 0x40 || secret.size > 32 then none
    else
      let padded := Bytes.replicate (32 - secret.size) 0 ++ secret
      some (X25519.scalarMult ⟨padded.data.reverse⟩ (point.extract 1 33))
  | c =>
    match weierstrass? c with
    | none => none
    | some w =>
      if point.size != 2 * w.size + 1 || point.get! 0 != 4 then none
      else
        let x := Bytes.toNatBE (point.extract 1 (1 + w.size))
        let y := Bytes.toNatBE (point.extract (1 + w.size) point.size)
        if !w.onCurve x y then none
        else (w.toAffine (w.mul (Bytes.toNatBE secret) (WeierstrassCurve.ofAffine x y))).map
          (fun (sx, _) => Bytes.ofNatBE sx w.size)

/-- Pad to a multiple of eight bytes, each padding byte holding the padding length. -/
def pad (b : ByteArray) : ByteArray :=
  let n := 8 - b.size % 8
  b ++ Bytes.replicate n n.toUInt8

/-- Remove the padding, if it is well formed. -/
def unpad (b : ByteArray) : Option ByteArray :=
  if b.size = 0 || b.size % 8 != 0 then none
  else
    let n := (b.get! (b.size - 1)).toNat
    if n = 0 || n > 8 then none else some (b.extract 0 (b.size - n))

/-- Unwrap a session key message with a recipient secret. -/
def decrypt (curve : Curve) (hash : HashCode) (cipher : CipherCode) (fingerprint secret point wrapped : ByteArray) :
    Option ByteArray := do
  let z ← shared curve secret point
  let k ← kek hash cipher z (param curve hash cipher fingerprint)
  let plain ← Aes.unwrap (Aes.expand k) wrapped
  unpad plain

/-- Wrap a session key message for a recipient point with an ephemeral secret; the
ephemeral public point and the wrapped message. -/
def encrypt (curve : Curve) (hash : HashCode) (cipher : CipherCode) (fingerprint recipient ephemeral msg : ByteArray) :
    Option (ByteArray × ByteArray) := do
  let (z, eph) ← match curve with
    | .curve25519 =>
      if recipient.size != 33 then none
      else some (X25519.scalarMult ephemeral (recipient.extract 1 33),
        ByteArray.mk #[0x40] ++ X25519.publicOf ephemeral)
    | c => do
      let w ← weierstrass? c
      let d := Bytes.toNatBE ephemeral % (w.n - 1) + 1
      let z ← shared c (Bytes.ofNatBE d w.size) recipient
      let (ex, ey) ← w.toAffine (w.mul d w.base)
      some (z, ByteArray.mk #[4] ++ Bytes.ofNatBE ex w.size ++ Bytes.ofNatBE ey w.size)
  let k ← kek hash cipher z (param curve hash cipher fingerprint)
  return (eph, Aes.wrap (Aes.expand k) (pad msg))

end SealedMail.Ecdh
