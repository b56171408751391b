import SealedMail.Packet.Codes
import SealedMail.Packet.Cursor
import SealedMail.Key.Algorithm
import SealedMail.Packet.Signature

/-! # Data packets

The packets that carry a message's content: literal data (a format byte, a file name, a
date and the data), compressed data (a method and the compressed packets), the encrypted
data packets with and without integrity protection, the modification detection code, and
the one-pass signature header that announces a signature after the data. Also the packets
of keys that carry no key material: user ids, user attributes, trust and marker packets.
-/

namespace SealedMail

/-- A literal data packet. -/
structure LiteralPacket where
  mode : Nat
  fileName : ByteArray
  date : Nat
  data : ByteArray
deriving Inhabited

namespace LiteralPacket

/-- The written body. -/
def body (l : LiteralPacket) : ByteArray :=
  ByteArray.mk #[l.mode.toUInt8, l.fileName.size.toUInt8] ++ l.fileName ++ Bytes.u32 l.date ++ l.data

/-- Whether the data is marked binary. -/
def isBinary (l : LiteralPacket) : Bool := l.mode == 0x62

end LiteralPacket

/-- Read a literal data packet. -/
def Cursor.literal : Cursor LiteralPacket := do
  let mode ← Cursor.u8
  if !(mode == 0x62 || mode == 0x74 || mode == 0x75 || mode == 0x6d) then Cursor.broken .mapRes
  let len ← Cursor.u8
  let name ← Cursor.take len.toNat
  let date ← Cursor.u32
  let data ← Cursor.rest
  return ⟨mode.toNat, name, date, data⟩

/-- A one-pass signature header. -/
structure OnePassPacket where
  typ : SignatureType
  hash : HashCode
  algorithm : PublicKeyAlgorithm
  keyId : ByteArray
  last : Bool := true
deriving Inhabited

/-- The written body of a one-pass signature header. -/
def OnePassPacket.body (o : OnePassPacket) : ByteArray :=
  ByteArray.mk #[3, o.typ.toNat.toUInt8, o.hash.toNat.toUInt8, o.algorithm.toNat.toUInt8] ++ o.keyId ++
    ByteArray.mk #[if o.last then 1 else 0]

/-- Read a one-pass signature header. -/
def Cursor.onePass : Cursor OnePassPacket := do
  let v ← Cursor.u8
  if v != 3 then Cursor.broken .tag
  let typ ← Cursor.signatureType
  let hash := HashCode.ofNat (← Cursor.u8).toNat
  let alg := PublicKeyAlgorithm.ofNat (← Cursor.u8).toNat
  let id ← Cursor.take 8
  let last ← Cursor.u8
  return ⟨typ, hash, alg, id, last != 0⟩

/-- The text a marker packet holds. -/
def markerText : ByteArray := ByteArray.mk #[0x50, 0x47, 0x50]

/-- Read a marker packet. -/
def Cursor.marker : Cursor Unit := do
  let b ← Cursor.take 3
  if !Bytes.equal b markerText then Cursor.broken .tag

end SealedMail
