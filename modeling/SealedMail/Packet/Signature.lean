import SealedMail.Packet.Subpacket
import SealedMail.Packet.Mpi
import SealedMail.Packet.Header
import SealedMail.Key.Algorithm

/-! # Signature packets

A version 4 signature holds its type, the signing algorithm and hash, a hashed and an
unhashed subpacket area, the first two bytes of the signed digest and the signature
numbers. A version 3 signature carries creation time and issuer in fixed fields instead
of subpackets. The digest of a version 4 signature covers the signed data, the
signature's first fields with the hashed area, and a trailer with their length.
-/

namespace SealedMail

/-- What a signature is about. -/
inductive SignatureType where
  | binary
  | text
  | standalone
  | certGeneric
  | certPersona
  | certCasual
  | certPositive
  | subkeyBinding
  | keyBinding
  | key
  | keyRevocation
  | subkeyRevocation
  | certRevocation
  | timestamp
  | thirdParty
deriving Repr, DecidableEq, Inhabited

namespace SignatureType

/-- Every type. -/
def all : List SignatureType :=
  [.binary, .text, .standalone, .certGeneric, .certPersona, .certCasual, .certPositive,
    .subkeyBinding, .keyBinding, .key, .keyRevocation, .subkeyRevocation, .certRevocation,
    .timestamp, .thirdParty]

/-- The code of a type. -/
def toNat : SignatureType → Nat
  | .binary => 0x00
  | .text => 0x01
  | .standalone => 0x02
  | .certGeneric => 0x10
  | .certPersona => 0x11
  | .certCasual => 0x12
  | .certPositive => 0x13
  | .subkeyBinding => 0x18
  | .keyBinding => 0x19
  | .key => 0x1f
  | .keyRevocation => 0x20
  | .subkeyRevocation => 0x28
  | .certRevocation => 0x30
  | .timestamp => 0x40
  | .thirdParty => 0x50

/-- The type with a code, if any. -/
def ofNat? (n : Nat) : Option SignatureType := all.find? (·.toNat == n)

/-- Whether a type certifies a user id. -/
def isCertification : SignatureType → Bool
  | .certGeneric | .certPersona | .certCasual | .certPositive => true
  | _ => false

end SignatureType

/-- A signature packet. -/
structure Signature where
  format : HeaderFormat := .new
  version : Nat := 4
  typ : SignatureType
  algorithm : PublicKeyAlgorithm
  hash : HashCode
  hashed : List Subpacket := []
  unhashed : List Subpacket := []
  /-- The creation time of a version 3 signature. -/
  fixedCreated : Option Nat := none
  /-- The issuer of a version 3 signature. -/
  fixedIssuer : Option ByteArray := none
  prefix2 : ByteArray
  values : List Mpi
deriving Inhabited

namespace Signature

/-- The written numbers. -/
def writeValues (values : List Mpi) : ByteArray :=
  values.foldl (fun acc m => acc ++ m.write) ByteArray.empty

/-- The fields a version 4 digest covers: version, type, algorithms and the hashed area. -/
def hashedHead (s : Signature) : ByteArray :=
  let area := Subpacket.writeAll s.hashed
  ByteArray.mk #[s.version.toUInt8, s.typ.toNat.toUInt8, s.algorithm.toNat.toUInt8,
    s.hash.toNat.toUInt8] ++ Bytes.u16 area.size ++ area

/-- The bytes a signature adds to its digest after the signed data. -/
def digestSuffix (s : Signature) : ByteArray :=
  if s.version < 4 then
    ByteArray.mk #[s.typ.toNat.toUInt8] ++ Bytes.u32 (s.fixedCreated.getD 0)
  else
    let head := s.hashedHead
    head ++ ByteArray.mk #[s.version.toUInt8, 0xff] ++ Bytes.u32 head.size

/-- The written body. -/
def body (s : Signature) : ByteArray :=
  if s.version < 4 then
    ByteArray.mk #[s.version.toUInt8, 5, s.typ.toNat.toUInt8] ++ Bytes.u32 (s.fixedCreated.getD 0) ++
      s.fixedIssuer.getD (Bytes.replicate 8 0) ++
      ByteArray.mk #[s.algorithm.toNat.toUInt8, s.hash.toNat.toUInt8] ++ s.prefix2 ++
      writeValues s.values
  else
    let unhashed := Subpacket.writeAll s.unhashed
    s.hashedHead ++ Bytes.u16 unhashed.size ++ unhashed ++ s.prefix2 ++ writeValues s.values

/-- The subpackets of both areas, hashed first. -/
def allSubpackets (s : Signature) : List Subpacket := s.hashed ++ s.unhashed

/-- The creation time. -/
def created? (s : Signature) : Option Nat :=
  match s.fixedCreated with
  | some t => some t
  | none => s.hashed.findSome? (fun p => match p.data with
    | .creationTime t => some t
    | _ => none)

/-- The issuer key ids named by the signature. -/
def issuers (s : Signature) : List ByteArray :=
  match s.fixedIssuer with
  | some k => [k]
  | none => s.allSubpackets.filterMap (fun p => match p.data with
    | .issuer k => some k
    | _ => none)

/-- The issuer fingerprints named by the signature. -/
def issuerFingerprints (s : Signature) : List ByteArray :=
  s.allSubpackets.filterMap (fun p => match p.data with
    | .issuerFingerprint _ f => some f
    | _ => none)

/-- The key validity period set by the signature, in seconds. -/
def keyExpiration? (s : Signature) : Option Nat :=
  s.hashed.findSome? (fun p => match p.data with
    | .keyExpiration t => some t
    | _ => none)

/-- The signature's own validity period, in seconds. -/
def signatureExpiration? (s : Signature) : Option Nat :=
  s.hashed.findSome? (fun p => match p.data with
    | .signatureExpiration t => some t
    | _ => none)

/-- The key flags byte of the signature (zero when it sets none). -/
def keyFlags (s : Signature) : Nat :=
  match s.hashed.findSome? (fun p => match p.data with
    | .keyFlags b => some b
    | _ => none) with
  | some b => if b.size = 0 then 0 else (b.get! 0).toNat
  | none => 0

/-- Whether the signature marks its user id as the primary one. -/
def isPrimary (s : Signature) : Bool :=
  s.hashed.any (fun p => match p.data with
    | .primaryUserId b => b
    | _ => false)

/-- Whether the signature certifies a user id. -/
def isCertification (s : Signature) : Bool := s.typ.isCertification

end Signature

/-- Read the signature numbers of an algorithm. -/
def Cursor.signatureValues (alg : PublicKeyAlgorithm) : Cursor (List Mpi) :=
  match alg with
  | .dsa | .ecdsa | .eddsa => do
    let r ← Cursor.mpi
    let s ← Cursor.mpi
    return [r, s]
  | _ => do return [← Cursor.mpi]

/-- Read a signature type code. -/
def Cursor.signatureType : Cursor SignatureType := do
  match SignatureType.ofNat? (← Cursor.u8).toNat with
  | some t => return t
  | none => Cursor.broken .mapRes

/-- Read a signature body, accepting an embedded signature when `embedded` accepts its
body. -/
def Cursor.signatureWith (format : HeaderFormat) (embedded : ByteArray → Bool) : Cursor Signature := do
    let version := (← Cursor.u8).toNat
    if version == 2 || version == 3 then
      let len ← Cursor.u8
      if len != 5 then Cursor.broken .tag
      let typ ← Cursor.signatureType
      let created ← Cursor.u32
      let issuer ← Cursor.take 8
      let alg := PublicKeyAlgorithm.ofNat (← Cursor.u8).toNat
      let hash := HashCode.ofNat (← Cursor.u8).toNat
      let prefix2 ← Cursor.take 2
      let values ← Cursor.signatureValues alg
      return ⟨format, version, typ, alg, hash, [], [], some created, some issuer, prefix2, values⟩
    else if version == 4 || version == 5 then
      let typ ← Cursor.signatureType
      let alg := PublicKeyAlgorithm.ofNat (← Cursor.u8).toNat
      let hash := HashCode.ofNat (← Cursor.u8).toNat
      let hl ← Cursor.u16
      let hashed := Subpacket.readArea embedded (← Cursor.take hl)
      let ul ← Cursor.u16
      let unhashed := Subpacket.readArea embedded (← Cursor.take ul)
      let prefix2 ← Cursor.take 2
      let values ← Cursor.signatureValues alg
      return ⟨format, version, typ, alg, hash, hashed, unhashed, none, none, prefix2, values⟩
    else
      Cursor.fail (.unsupported ("unknown signature version Other(" ++ toString version ++ ")"))

/-- Whether a body reads as a signature whose embedded signatures nest at most `depth`
deep. -/
def Signature.readable : Nat → ByteArray → Bool
  | 0, _ => false
  | d + 1, b => ((Cursor.signatureWith .new (Signature.readable d)).run b).toBool

/-- Read a signature body; embedded signatures may nest two deep. -/
def Cursor.signature (format : HeaderFormat) : Cursor Signature :=
  Cursor.signatureWith format (Signature.readable 2)

end SealedMail
