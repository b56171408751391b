import SealedMail.Packet.S2k
import SealedMail.Packet.Mpi
import SealedMail.Key.Algorithm

/-! # Session key packets

A public-key session key packet names the recipient key id (all zeros for a hidden
recipient), the algorithm and the encrypted session key in the algorithm's form: one
number for RSA, two for ElGamal, and for ECDH an ephemeral point followed by the wrapped
key with a length byte. A password session key packet names a cipher, a string-to-key
specifier and, optionally, the session key encrypted under the derived key.
-/

namespace SealedMail

/-- The encrypted session key of a public-key session key packet. -/
inductive EncryptedSession where
  | rsa (c : Mpi)
  | elgamal (a b : Mpi)
  /-- An ephemeral point and the wrapped key. -/
  | ecdh (point : Mpi) (wrapped : ByteArray)
  /-- Nothing is read for other algorithms. -/
  | none
deriving Inhabited

namespace EncryptedSession

/-- The number of values the packet holds (ECDH counts its point, length and key). -/
def valueCount : EncryptedSession → Nat
  | .rsa _ => 1
  | .elgamal _ _ => 2
  | .ecdh _ _ => 3
  | .none => 0

/-- The written form. -/
def write : EncryptedSession → ByteArray
  | .rsa c => c.write
  | .elgamal a b => a.write ++ b.write
  | .ecdh p w => p.write ++ ByteArray.mk #[w.size.toUInt8] ++ w
  | .none => ByteArray.empty

end EncryptedSession

/-- A public-key session key packet. -/
structure PublicKeySessionPacket where
  version : Nat := 3
  keyId : ByteArray
  algorithm : PublicKeyAlgorithm
  session : EncryptedSession
deriving Inhabited

namespace PublicKeySessionPacket

/-- The written body. -/
def body (p : PublicKeySessionPacket) : ByteArray :=
  ByteArray.mk #[p.version.toUInt8] ++ p.keyId ++ ByteArray.mk #[p.algorithm.toNat.toUInt8] ++
    p.session.write

/-- Whether the recipient is hidden. -/
def isWildcard (p : PublicKeySessionPacket) : Bool := p.keyId.toList.all (· == 0)

end PublicKeySessionPacket

/-- Read the encrypted session key of an algorithm. -/
def Cursor.encryptedSession (alg : PublicKeyAlgorithm) : Cursor EncryptedSession :=
  match alg with
  | .rsa | .rsaSign | .rsaEncrypt => do return .rsa (← Cursor.mpi)
  | .elgamal | .elgamalSign => do
    let a ← Cursor.mpi
    let b ← Cursor.mpi
    return .elgamal a b
  | .ecdh => do
    let p ← Cursor.mpi
    let len ← Cursor.u8
    let w ← Cursor.take len.toNat
    return .ecdh p w
  | _ => return .none

/-- Read a public-key session key packet. -/
def Cursor.publicKeySession : Cursor PublicKeySessionPacket := do
  let version ← Cursor.u8
  if version != 3 then
    Cursor.fail (.unsupported ("PKESK version " ++ toString version.toNat))
  let id ← Cursor.take 8
  let alg := PublicKeyAlgorithm.ofNat (← Cursor.u8).toNat
  let session ← Cursor.encryptedSession alg
  return ⟨3, id, alg, session⟩

/-- A password session key packet. -/
structure PasswordSessionPacket where
  version : Nat := 4
  cipher : CipherCode
  s2k : StringToKey
  /-- The encrypted session key; empty when the derived key is the session key. -/
  encryptedKey : ByteArray
  /-- The fields after the cipher of a version 5 packet, unread. -/
  extra : ByteArray := ByteArray.empty
deriving Inhabited

/-- The written body of a password session key packet. -/
def PasswordSessionPacket.body (p : PasswordSessionPacket) : ByteArray :=
  if p.version == 4 then
    ByteArray.mk #[4, p.cipher.toNat.toUInt8] ++ p.s2k.write ++ p.encryptedKey
  else ByteArray.mk #[p.version.toUInt8] ++ p.extra

/-- Read a password session key packet. -/
def Cursor.passwordSession : Cursor PasswordSessionPacket := do
  let version ← Cursor.u8
  match version.toNat with
  | 4 =>
    let cipher := CipherCode.ofNat (← Cursor.u8).toNat
    let s2k ← Cursor.stringToKey
    let key ← Cursor.rest
    return ⟨4, cipher, s2k, key, ByteArray.empty⟩
  | 5 =>
    let start ← Cursor.pos
    let _ ← Cursor.u8
    let cipher := CipherCode.ofNat (← Cursor.u8).toNat
    let _ ← Cursor.u8
    let s2k ← Cursor.stringToKey
    let all ← fun b _ => .ok (b.extract start b.size, b.size)
    return ⟨5, cipher, s2k, ByteArray.empty, all⟩
  | v => Cursor.fail (.unsupported ("SKESK version " ++ toString v))

end SealedMail
