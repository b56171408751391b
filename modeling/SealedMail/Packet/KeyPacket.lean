import SealedMail.Packet.KeyParams
import SealedMail.Packet.S2k
import SealedMail.Packet.Header
import SealedMail.Digest.Sha1
import SealedMail.Bytes.Hex

/-! # Key packets

A key packet holds a version, a creation time, an algorithm and the public parameters; a
secret key packet follows them with the secret parameters, either in the clear with a
two-byte checksum or encrypted under a passphrase. The fingerprint of a version 4 key is the
SHA-1 of the public part written as an old-format public key packet with a two-byte length,
and its key id is the last eight bytes of the fingerprint.
-/

namespace SealedMail

/-- The public part of a key packet. -/
structure KeyPacket where
  /-- The header format the packet was read with, kept for writing it back. -/
  format : HeaderFormat := .new
  version : Nat := 4
  created : Nat
  /-- The validity period in days of a version 2 or 3 key. -/
  expiryDays : Nat := 0
  algorithm : PublicKeyAlgorithm
  params : PublicParams
deriving Inhabited

namespace KeyPacket

/-- The written body of the public part. -/
def body (k : KeyPacket) : ByteArray :=
  let head := ByteArray.mk #[k.version.toUInt8] ++ Bytes.u32 k.created
  let head := if k.version < 4 then head ++ Bytes.u16 k.expiryDays else head
  head ++ ByteArray.mk #[k.algorithm.toNat.toUInt8] ++ k.params.write

/-- The fingerprint. -/
def fingerprint (k : KeyPacket) : ByteArray :=
  let b := k.body
  Sha1.hash (ByteArray.mk #[0x99] ++ Bytes.u16 b.size ++ b)

/-- The key id: the last eight bytes of the fingerprint. -/
def keyId (k : KeyPacket) : ByteArray :=
  let f := k.fingerprint
  f.extract (f.size - 8) f.size

/-- The key id in upper-case hex. -/
def keyIdHex (k : KeyPacket) : String := Hex.encodeUpper k.keyId

/-- The RSA modulus, for RSA keys. -/
def rsaModulus? (k : KeyPacket) : Option Mpi :=
  match k.params with
  | .rsa n _ => some n
  | _ => none

end KeyPacket

/-- Read the public part of a key packet. -/
def Cursor.keyPacket (format : HeaderFormat) : Cursor KeyPacket := do
  let version ← Cursor.u8
  match version.toNat with
  | 2 | 3 =>
    let created ← Cursor.u32
    let days ← Cursor.u16
    let alg := PublicKeyAlgorithm.ofNat (← Cursor.u8).toNat
    let params ← Cursor.publicParams alg
    return ⟨format, version.toNat, created, days, alg, params⟩
  | 4 =>
    let created ← Cursor.u32
    let alg := PublicKeyAlgorithm.ofNat (← Cursor.u8).toNat
    let params ← Cursor.publicParams alg
    return ⟨format, 4, created, 0, alg, params⟩
  | v => Cursor.fail (.unsupported ("key version " ++ toString v))

/-- The secret part of a key packet. -/
inductive SecretParams where
  /-- The secret numbers in the clear. -/
  | plain (values : List Mpi)
  /-- The secret numbers encrypted: the protection byte (254 for a SHA-1 check, 255 for a
  two-byte checksum), cipher, specifier, initial vector and ciphertext. -/
  | encrypted (usage : Nat) (cipher : CipherCode) (s2k : StringToKey) (iv : ByteArray)
      (data : ByteArray)
deriving Inhabited

namespace SecretParams

/-- The two-byte checksum of secret data: the sum of its bytes modulo 65536. -/
def checksum (b : ByteArray) : Nat := b.foldl (fun acc x => (acc + x.toNat) % 65536) 0

/-- The written form of secret numbers, without checksum. -/
def writeValues (values : List Mpi) : ByteArray :=
  values.foldl (fun acc m => acc ++ m.write) ByteArray.empty

/-- The written form. -/
def write : SecretParams → ByteArray
  | .plain values =>
    let v := writeValues values
    ByteArray.mk #[0] ++ v ++ Bytes.u16 (checksum v)
  | .encrypted usage cipher s2k iv data =>
    ByteArray.mk #[usage.toUInt8, cipher.toNat.toUInt8] ++ s2k.write ++ iv ++ data

/-- Whether the secret numbers are encrypted. -/
def isEncrypted : SecretParams → Bool
  | .plain _ => false
  | .encrypted .. => true

end SecretParams

/-- The number of secret numbers of an algorithm, if the algorithm has secret numbers. -/
def PublicKeyAlgorithm.secretCount? : PublicKeyAlgorithm → Option Nat
  | .rsa | .rsaEncrypt | .rsaSign => some 4
  | .dsa | .ecdsa | .ecdh | .eddsa | .elgamal | .elgamalSign => some 1
  | _ => none

/-- Read `n` numbers. -/
def Cursor.mpis : Nat → Cursor (List Mpi)
  | 0 => return []
  | n + 1 => do
    let m ← Cursor.mpi
    let rest ← Cursor.mpis n
    return m :: rest

/-- Read the secret numbers of an algorithm in the clear. -/
def Cursor.plainSecret (alg : PublicKeyAlgorithm) : Cursor (List Mpi) :=
  match alg.secretCount? with
  | some n => Cursor.mpis n
  | none => Cursor.fail (.unsupported ("secret key algorithm " ++ alg.name))

/-- Read the secret part of a key packet of an algorithm. -/
def Cursor.secretParams (alg : PublicKeyAlgorithm) : Cursor SecretParams := do
  let usage ← Cursor.u8
  match usage.toNat with
  | 0 =>
    let values ← Cursor.plainSecret alg
    let _ ← Cursor.u16
    return .plain values
  | 254 | 255 =>
    let cipher := CipherCode.ofNat (← Cursor.u8).toNat
    let s2k ← Cursor.stringToKey
    if !s2k.isHashing then Cursor.broken .mapRes
    let iv ← Cursor.take cipher.blockSize
    let data ← Cursor.rest
    return .encrypted usage.toNat cipher s2k iv data
  | _ => Cursor.broken .mapRes

/-- A secret key packet: the public part and the secret part. -/
structure SecretKeyPacket where
  publicPart : KeyPacket
  secret : SecretParams
deriving Inhabited

/-- The written body of a secret key packet. -/
def SecretKeyPacket.body (k : SecretKeyPacket) : ByteArray := k.publicPart.body ++ k.secret.write

/-- Read a secret key packet. -/
def Cursor.secretKeyPacket (format : HeaderFormat) : Cursor SecretKeyPacket := do
  let pub ← Cursor.keyPacket format
  let secret ← Cursor.secretParams pub.algorithm
  return ⟨pub, secret⟩

end SealedMail
