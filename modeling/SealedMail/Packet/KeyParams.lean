import SealedMail.Packet.Mpi
import SealedMail.Packet.Codes
import SealedMail.Key.Algorithm

/-! # Public key parameters

The public numbers of a key, by algorithm: RSA's modulus and exponent, the DSA and ElGamal
group and public value, and for the elliptic-curve algorithms the curve and the public
point (ECDH adds the hash and cipher of its key derivation). Parameters of an algorithm
without a name are not kept.
-/

namespace SealedMail

/-- The public numbers of a key. -/
inductive PublicParams where
  | rsa (n e : Mpi)
  | dsa (p q g y : Mpi)
  | ecdsa (curve : Curve) (point : Mpi)
  | ecdh (curve : Curve) (point : Mpi) (hash : HashCode) (cipher : CipherCode)
  | elgamal (p g y : Mpi)
  | eddsa (curve : Curve) (point : Mpi)
  | unknown
deriving Inhabited

namespace PublicParams

/-- The written form of a curve name. -/
def writeCurve (c : Curve) : ByteArray := ByteArray.mk #[c.oid.size.toUInt8] ++ c.oid

/-- The written form. -/
def write : PublicParams → ByteArray
  | .rsa n e => n.write ++ e.write
  | .dsa p q g y => p.write ++ q.write ++ g.write ++ y.write
  | .ecdsa c pt => writeCurve c ++ pt.write
  | .ecdh c pt h k => writeCurve c ++ pt.write ++ ByteArray.mk #[3, 1, h.toNat.toUInt8, k.toNat.toUInt8]
  | .elgamal p g y => p.write ++ g.write ++ y.write
  | .eddsa c pt => writeCurve c ++ pt.write
  | .unknown => ByteArray.empty

end PublicParams

/-- Read a curve name: a length byte and an object identifier. -/
def Cursor.curve : Cursor Curve := do
  let len ← Cursor.u8
  let oid ← Cursor.take len.toNat
  match Curve.ofOid? oid with
  | some c => return c
  | none => Cursor.broken .mapOpt

/-- Read the public parameters of an algorithm. -/
def Cursor.publicParams (alg : PublicKeyAlgorithm) : Cursor PublicParams :=
  match alg with
  | .rsa | .rsaEncrypt | .rsaSign => do
    let n ← Cursor.mpi
    let e ← Cursor.mpi
    return .rsa n e
  | .dsa => do
    let p ← Cursor.mpi
    let q ← Cursor.mpi
    let g ← Cursor.mpi
    let y ← Cursor.mpi
    return .dsa p q g y
  | .ecdsa => do
    let c ← Cursor.curve
    let pt ← Cursor.mpi
    return .ecdsa c pt
  | .ecdh => do
    let c ← Cursor.curve
    let pt ← Cursor.mpi
    let _ ← Cursor.u8
    let reserved ← Cursor.u8
    if reserved != 1 then Cursor.broken .tag
    let h ← Cursor.u8
    let k ← Cursor.u8
    return .ecdh c pt (HashCode.ofNat h.toNat) (CipherCode.ofNat k.toNat)
  | .elgamal | .elgamalSign => do
    let p ← Cursor.mpi
    let g ← Cursor.mpi
    let y ← Cursor.mpi
    return .elgamal p g y
  | .eddsa => do
    let c ← Cursor.curve
    let pt ← Cursor.mpi
    return .eddsa c pt
  | _ => return .unknown

end SealedMail
