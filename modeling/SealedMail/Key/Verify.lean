import SealedMail.Packet.KeyPacket
import SealedMail.Packet.Signature
import SealedMail.Asymmetric.Rsa
import SealedMail.Asymmetric.Dsa
import SealedMail.Asymmetric.Ecdsa
import SealedMail.Asymmetric.Ecdh
import SealedMail.Curve.Edwards
import SealedMail.Text.Lines

/-! # Checking signatures

A signature is checked against a public key by hashing the signed data followed by the
signature's own suffix, comparing the first two digest bytes with the ones the signature
records, and checking the signature numbers against the digest with the key's algorithm.
The signed data of a key signature is the key (and user id or subkey) in a fixed form; that
of a text signature is the text with every line break written as CR LF.
-/

namespace SealedMail

namespace KeyPacket

/-- The form a key takes in the data of key signatures: `99`, a two-byte length, the body. -/
def hashForm (k : KeyPacket) : ByteArray :=
  let b := k.body
  ByteArray.mk #[0x99] ++ Bytes.u16 b.size ++ b

/-- The Weierstrass curve of an ECDSA key, for the curves with a group law here. -/
def ecdsaCurve? : Curve → Option WeierstrassCurve
  | .p256 => some .p256
  | .p384 => some .p384
  | .secp256k1 => some .secp256k1
  | _ => none

/-- Whether signature numbers are a valid signature of a digest under this key. -/
def verifyDigest (k : KeyPacket) (hash : HashCode) (digest : ByteArray) (values : List Mpi) : Bool :=
  match k.params, values with
  | .rsa n e, [s] => Rsa.verify n.toNat e.toNat hash digest s.bytes
  | .dsa p q g y, [r, s] => Dsa.verify p.toNat q.toNat g.toNat y.toNat digest r.toNat s.toNat
  | .ecdsa c pt, [r, s] =>
    match ecdsaCurve? c with
    | some w =>
      match Ecdsa.decodePoint w pt.bytes with
      | some q => Ecdsa.verify w q digest r.toNat s.toNat
      | none => false
    | none => false
  | .eddsa .ed25519 pt, [r, s] =>
    if pt.bytes.size != 33 || pt.bytes.get! 0 != 0x40 || r.bytes.size > 32 || s.bytes.size > 32 then false
    else
      Ed25519.verify (pt.bytes.extract 1 33) digest
        (Bytes.ofNatBE r.toNat 32 ++ Bytes.ofNatBE s.toNat 32)
  | _, _ => false

end KeyPacket

namespace Signature

/-- The digest of signed data (as the signature's type prepares it), if the hash is one
the engine computes. -/
def digestOf (s : Signature) (data : ByteArray) : Option ByteArray := do
  let h ← s.hash.toAlgorithm?
  let data := if s.typ == .text then Lines.normalizeBreaks data else data
  return h.digest (data ++ s.digestSuffix)

/-- Whether the signature is a valid signature of `data` by the key. -/
def verifies (s : Signature) (k : KeyPacket) (data : ByteArray) : Bool :=
  match s.digestOf data with
  | none => false
  | some d => Bytes.equal (d.extract 0 2) s.prefix2 && k.verifyDigest s.hash d s.values

/-- The signed data of a certification of a user id (`tag` 13) or attribute (`tag` 17). -/
def certifiedData (s : Signature) (primary : KeyPacket) (tag : Nat) (id : ByteArray) : ByteArray :=
  if s.version < 4 then primary.hashForm ++ id
  else
    primary.hashForm ++ ByteArray.mk #[if tag == 17 then 0xd1 else 0xb4] ++ Bytes.u32 id.size ++ id

/-- Whether the signature certifies a user id on a primary key. -/
def verifiesCertification (s : Signature) (primary : KeyPacket) (tag : Nat) (id : ByteArray) : Bool :=
  s.verifies primary (s.certifiedData primary tag id)

/-- Whether the signature binds a subkey to a primary key. -/
def verifiesBinding (s : Signature) (primary sub : KeyPacket) : Bool :=
  s.verifies primary (primary.hashForm ++ sub.hashForm)

/-- Whether the signature is made over the primary key alone by the primary key. -/
def verifiesKey (s : Signature) (primary : KeyPacket) : Bool :=
  s.verifies primary primary.hashForm

end Signature

end SealedMail
