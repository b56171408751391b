import SealedMail.Packet.Cursor
import SealedMail.Packet.Codes
import SealedMail.Bytes.Basic

/-! # Signature subpackets

The hashed and unhashed areas of a signature are lists of subpackets: a length, a type
byte whose top bit marks the subpacket critical, and a body. Known types are read into
their values and written back from them, so a body longer than its value needs is
shortened on writing; a list stops at the first subpacket that cannot be read.
-/

namespace SealedMail

/-- The value of a subpacket. -/
inductive SubpacketData where
  | creationTime (t : Nat)
  | signatureExpiration (seconds : Nat)
  | exportable (b : Bool)
  | trust (depth amount : Nat)
  | regularExpression (body : ByteArray)
  | revocable (b : Bool)
  | keyExpiration (seconds : Nat)
  | preferredCiphers (codes : ByteArray)
  | revocationKey (cls alg : Nat) (fingerprint : ByteArray)
  | issuer (keyId : ByteArray)
  | notationData (flags : ByteArray) (name value : ByteArray)
  | preferredHashes (codes : ByteArray)
  | preferredCompression (codes : ByteArray)
  | keyServerPreferences (body : ByteArray)
  | preferredKeyServer (body : ByteArray)
  | primaryUserId (b : Bool)
  | policyUri (body : ByteArray)
  | keyFlags (body : ByteArray)
  | signersUserId (body : ByteArray)
  | revocationReason (code : Nat) (reason : ByteArray)
  | features (body : ByteArray)
  | signatureTarget (alg hash : Nat) (digest : ByteArray)
  /-- An embedded signature, kept as its written body. -/
  | embeddedSignature (body : ByteArray)
  | issuerFingerprint (version : Nat) (fingerprint : ByteArray)
  | preferredAead (codes : ByteArray)
  | other (typ : Nat) (body : ByteArray)
deriving Inhabited

/-- A subpacket: its value and whether it is marked critical. -/
structure Subpacket where
  critical : Bool := false
  data : SubpacketData
deriving Inhabited

namespace SubpacketData

/-- The type number of a value. -/
def typ : SubpacketData → Nat
  | .creationTime _ => 2
  | .signatureExpiration _ => 3
  | .exportable _ => 4
  | .trust _ _ => 5
  | .regularExpression _ => 6
  | .revocable _ => 7
  | .keyExpiration _ => 9
  | .preferredCiphers _ => 11
  | .revocationKey _ _ _ => 12
  | .issuer _ => 16
  | .notationData _ _ _ => 20
  | .preferredHashes _ => 21
  | .preferredCompression _ => 22
  | .keyServerPreferences _ => 23
  | .preferredKeyServer _ => 24
  | .primaryUserId _ => 25
  | .policyUri _ => 26
  | .keyFlags _ => 27
  | .signersUserId _ => 28
  | .revocationReason _ _ => 29
  | .features _ => 30
  | .signatureTarget _ _ _ => 31
  | .embeddedSignature _ => 32
  | .issuerFingerprint _ _ => 33
  | .preferredAead _ => 34
  | .other t _ => t

/-- A flag byte. -/
def flag (b : Bool) : ByteArray := ByteArray.mk #[if b then 1 else 0]

/-- The written body of a value. -/
def body : SubpacketData → ByteArray
  | .creationTime t => Bytes.u32 t
  | .signatureExpiration s => Bytes.u32 s
  | .exportable b => flag b
  | .trust d a => ByteArray.mk #[d.toUInt8, a.toUInt8]
  | .regularExpression b => b
  | .revocable b => flag b
  | .keyExpiration s => Bytes.u32 s
  | .preferredCiphers c => c
  | .revocationKey c a f => ByteArray.mk #[c.toUInt8, a.toUInt8] ++ f
  | .issuer k => k
  | .notationData f n v => f ++ Bytes.u16 n.size ++ Bytes.u16 v.size ++ n ++ v
  | .preferredHashes c => c
  | .preferredCompression c => c
  | .keyServerPreferences b => b
  | .preferredKeyServer b => b
  | .primaryUserId b => flag b
  | .policyUri b => b
  | .keyFlags b => b
  | .signersUserId b => b
  | .revocationReason c r => ByteArray.mk #[c.toUInt8] ++ r
  | .features b => b
  | .signatureTarget a h d => ByteArray.mk #[a.toUInt8, h.toUInt8] ++ d
  | .embeddedSignature b => b
  | .issuerFingerprint v f => ByteArray.mk #[v.toUInt8] ++ f
  | .preferredAead c => c
  | .other _ b => b

end SubpacketData

/-- The shortest length form of a subpacket (one, two or five bytes). -/
def subpacketLength (len : Nat) : ByteArray :=
  if len < 192 then ByteArray.mk #[len.toUInt8]
  else if len < 8384 then ByteArray.mk #[((len - 192) / 256 + 192).toUInt8, ((len - 192) % 256).toUInt8]
  else ByteArray.mk #[255] ++ Bytes.u32 len

/-- The written form of a subpacket. -/
def Subpacket.write (s : Subpacket) : ByteArray :=
  let b := s.data.body
  subpacketLength (b.size + 1) ++
    ByteArray.mk #[(s.data.typ + if s.critical then 128 else 0).toUInt8] ++ b

/-- The written form of a subpacket area, without its length. -/
def Subpacket.writeAll (ss : List Subpacket) : ByteArray :=
  ss.foldl (fun acc s => acc ++ s.write) ByteArray.empty

/-- A flag read from a byte: set when the byte is one. -/
def Cursor.flag : Cursor Bool := do return (← Cursor.u8) == 1

/-- Read the value of a subpacket of type `typ` from its body; the embedded signature
check is left to the caller (`embedded`). -/
def Cursor.subpacketData (embedded : ByteArray → Bool) (typ : Nat) : Cursor SubpacketData :=
  match typ with
  | 2 => do return .creationTime (← Cursor.u32)
  | 3 => do return .signatureExpiration (← Cursor.u32)
  | 4 => do return .exportable (← Cursor.flag)
  | 5 => do
    let d ← Cursor.u8
    let a ← Cursor.u8
    return .trust d.toNat a.toNat
  | 6 => do return .regularExpression (← Cursor.rest)
  | 7 => do return .revocable (← Cursor.flag)
  | 9 => do return .keyExpiration (← Cursor.u32)
  | 11 => do return .preferredCiphers (← Cursor.rest)
  | 12 => do
    let c ← Cursor.u8
    let a ← Cursor.u8
    let f ← Cursor.take 20
    return .revocationKey c.toNat a.toNat f
  | 16 => do return .issuer (← Cursor.take 8)
  | 20 => do
    let f ← Cursor.take 4
    let nl ← Cursor.u16
    let vl ← Cursor.u16
    let n ← Cursor.take nl
    let v ← Cursor.take vl
    return .notationData f n v
  | 21 => do return .preferredHashes (← Cursor.rest)
  | 22 => do return .preferredCompression (← Cursor.rest)
  | 23 => do return .keyServerPreferences (← Cursor.rest)
  | 24 => do return .preferredKeyServer (← Cursor.rest)
  | 25 => do return .primaryUserId (← Cursor.flag)
  | 26 => do return .policyUri (← Cursor.rest)
  | 27 => do return .keyFlags (← Cursor.rest)
  | 28 => do return .signersUserId (← Cursor.rest)
  | 29 => do
    let c ← Cursor.u8
    return .revocationReason c.toNat (← Cursor.rest)
  | 30 => do return .features (← Cursor.rest)
  | 31 => do
    let a ← Cursor.u8
    let h ← Cursor.u8
    return .signatureTarget a.toNat h.toNat (← Cursor.rest)
  | 32 => do
    let b ← Cursor.rest
    if embedded b then return .embeddedSignature b else Cursor.broken .mapRes
  | 33 => do
    let v ← Cursor.u8
    return .issuerFingerprint v.toNat (← Cursor.rest)
  | 34 => do return .preferredAead (← Cursor.rest)
  | t => do return .other t (← Cursor.rest)

/-- Read a subpacket length. -/
def Cursor.subpacketLength : Cursor Nat := do
  let o1 := (← Cursor.u8).toNat
  if o1 < 192 then return o1
  else if o1 < 255 then
    let o2 := (← Cursor.u8).toNat
    return (o1 - 192) * 256 + 192 + o2
  else Cursor.u32

/-- Read one subpacket. -/
def Cursor.subpacket (embedded : ByteArray → Bool) : Cursor Subpacket := do
  let len ← Cursor.subpacketLength
  if len = 0 then Cursor.broken .eof
  let t := (← Cursor.u8).toNat
  let body ← Cursor.take (len - 1)
  match (Cursor.subpacketData embedded (t % 128)).run body with
  | .ok (d, _) => return ⟨t ≥ 128, d⟩
  | .error e => fun _ _ => .error e

namespace Subpacket

/-- Read the subpackets of an area, stopping at the first one that cannot be read. -/
def readArea (embedded : ByteArray → Bool) (area : ByteArray) : List Subpacket :=
  go 0 (area.size + 1)
where
  go (pos : Nat) : Nat → List Subpacket
    | 0 => []
    | fuel + 1 =>
      if pos < area.size then
        match Cursor.subpacket embedded area pos with
        | .ok (s, next) => if next > pos then s :: go next fuel else []
        | .error _ => []
      else []

end Subpacket

end SealedMail
