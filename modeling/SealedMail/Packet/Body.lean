import SealedMail.Packet.Stream
import SealedMail.Packet.KeyPacket
import SealedMail.Packet.Signature
import SealedMail.Packet.SessionKey
import SealedMail.Packet.Data

/-! # Packets

A packet is one of the kinds of the format with its body read into its fields. Reading a
packet dispatches on its tag; writing it gives back its header and body. Packets that
carry text or key material keep the header format they were read with.
-/

namespace SealedMail

/-- A packet with its body read. -/
inductive Packet where
  | publicKeySession (p : PublicKeySessionPacket)
  | signature (s : Signature)
  | passwordSession (p : PasswordSessionPacket)
  | onePass (o : OnePassPacket)
  | secretKey (k : SecretKeyPacket)
  | publicKey (k : KeyPacket)
  | secretSubkey (k : SecretKeyPacket)
  | compressed (method : CompressionCode) (data : ByteArray)
  | encryptedData (data : ByteArray)
  | marker
  | literal (l : LiteralPacket)
  | trust (body : ByteArray)
  | userId (format : HeaderFormat) (id : ByteArray)
  | publicSubkey (k : KeyPacket)
  | userAttribute (format : HeaderFormat) (body : ByteArray)
  | protectedData (version : Nat) (data : ByteArray)
  | modificationCode (hash : ByteArray)
deriving Inhabited

namespace Packet

/-- The tag of a packet. -/
def tag : Packet → PacketTag
  | .publicKeySession _ => .publicKeyEncryptedSessionKey
  | .signature _ => .signature
  | .passwordSession _ => .symKeyEncryptedSessionKey
  | .onePass _ => .onePassSignature
  | .secretKey _ => .secretKey
  | .publicKey _ => .publicKey
  | .secretSubkey _ => .secretSubkey
  | .compressed _ _ => .compressedData
  | .encryptedData _ => .symEncryptedData
  | .marker => .marker
  | .literal _ => .literalData
  | .trust _ => .trust
  | .userId _ _ => .userId
  | .publicSubkey _ => .publicSubkey
  | .userAttribute _ _ => .userAttribute
  | .protectedData _ _ => .symEncryptedProtectedData
  | .modificationCode _ => .modDetectionCode

/-- The body reader of a tag. -/
def reader (format : HeaderFormat) : PacketTag → Cursor Packet
  | .publicKeyEncryptedSessionKey => do return .publicKeySession (← Cursor.publicKeySession)
  | .signature => do return .signature (← Cursor.signature format)
  | .symKeyEncryptedSessionKey => do return .passwordSession (← Cursor.passwordSession)
  | .onePassSignature => do return .onePass (← Cursor.onePass)
  | .secretKey => do return .secretKey (← Cursor.secretKeyPacket format)
  | .publicKey => do return .publicKey (← Cursor.keyPacket format)
  | .secretSubkey => do return .secretSubkey (← Cursor.secretKeyPacket format)
  | .compressedData => do
    if (← Cursor.remaining) ≤ 1 then Cursor.fail (.message "input too short")
    let m ← Cursor.u8
    return .compressed (CompressionCode.ofNat m.toNat) (← Cursor.rest)
  | .symEncryptedData => do return .encryptedData (← Cursor.rest)
  | .marker => do
    Cursor.marker
    return .marker
  | .literalData => do return .literal (← Cursor.literal)
  | .trust => do return .trust (← Cursor.rest)
  | .userId => do return .userId format (← Cursor.rest)
  | .publicSubkey => do return .publicSubkey (← Cursor.keyPacket format)
  | .userAttribute => do return .userAttribute format (← Cursor.rest)
  | .symEncryptedProtectedData => do
    let v ← Cursor.u8
    return .protectedData v.toNat (← Cursor.rest)
  | .modDetectionCode => do return .modificationCode (← Cursor.take 20)
  | .other n => Cursor.fail (.unsupported ("unknown packet type " ++ toString n))

/-- Read a packet body. -/
def read (format : HeaderFormat) (tag : PacketTag) (body : ByteArray) : PacketResult Packet :=
  (reader format tag).body body

/-- Read every packet of a byte string. -/
def readAll (b : ByteArray) : List (PacketResult Packet) := PacketStream.read read b

/-- The header format a packet is written with. -/
def format : Packet → HeaderFormat
  | .signature s => s.format
  | .secretKey k | .secretSubkey k => k.publicPart.format
  | .publicKey k | .publicSubkey k => k.format
  | .userId f _ | .userAttribute f _ => f
  | _ => .new

/-- The written body of a packet. -/
def body : Packet → ByteArray
  | .publicKeySession p => p.body
  | .signature s => s.body
  | .passwordSession p => p.body
  | .onePass o => o.body
  | .secretKey k | .secretSubkey k => k.body
  | .publicKey k | .publicSubkey k => k.body
  | .compressed m d => ByteArray.mk #[m.toNat.toUInt8] ++ d
  | .encryptedData d => d
  | .marker => markerText
  | .literal l => l.body
  | .trust b => b
  | .userId _ b => b
  | .userAttribute _ b => b
  | .protectedData v d => ByteArray.mk #[v.toUInt8] ++ d
  | .modificationCode h => h

/-- A packet written with the header format it carries. -/
def write (p : Packet) : ByteArray := Header.packet p.format p.tag p.body

/-- A packet written with a new-format header. -/
def writeNew (p : Packet) : ByteArray := Header.packet .new p.tag p.body

end Packet

end SealedMail
