import SealedMail.Message.Session
import SealedMail.Message.Signing
import SealedMail.Message.Inflate

/-! # Encrypted messages

A message is a run of session key packets and one integrity-protected data packet. The data
packet holds, encrypted in CFB mode under the session key with a zero initial vector, a
random block whose last two bytes are repeated, then the inner packets, then a modification
detection code: the SHA-1 digest of everything before it. The repeated bytes let a wrong
session key be noticed after one block; the digest catches any change to the data.

The inner packets are literal data (the first one is the content), signatures over it, and
compressed data holding more inner packets; one-pass signature headers and markers are
skipped and any other packet is an error.
-/

namespace SealedMail

/-- The format of literal data. -/
inductive LiteralFormat where
  | binary
  | utf8
deriving DecidableEq, Inhabited

namespace LiteralFormat

/-- The format octet. -/
def octet : LiteralFormat → Nat
  | .binary => 0x62
  | .utf8 => 0x75

/-- How a signature over data of this format is made. -/
def signatureMode : LiteralFormat → SignatureMode
  | .binary => .binary
  | .utf8 => .text

end LiteralFormat

/-- Literal data to be encrypted: the bytes, their format, a file name and a date. -/
structure Payload where
  data : ByteArray
  format : LiteralFormat
  fileName : String := ""
  date : Int

/-- The literal packet of a payload; the file name keeps at most 255 bytes and a date outside
32 bits becomes zero. -/
def Payload.literal (p : Payload) : LiteralPacket :=
  let name := p.fileName.toUTF8
  { mode := p.format.octet, fileName := name.extract 0 (min name.size 255)
    date := if 0 ≤ p.date && p.date < Int.pow 2 32 then p.date.toNat else 0, data := p.data }

/-- Who signs a message: an unlocked key, a hash and a creation time. -/
structure Signer where
  key : Key
  hash : HashAlgorithm
  created : Int

/-- The modification detection packet header that precedes the digest. -/
def mdcHeader : ByteArray := ByteArray.mk #[0xd3, 0x14]

/-- Encrypt inner packets under a session key: the body of an integrity-protected data packet. -/
def protect (s : SessionKey) (inner : ByteArray) (g : Entropy) : ByteArray × Entropy :=
  let (rand, g) := g.bytes 16
  let pre := rand ++ rand.extract 14 16
  let plain := pre ++ inner ++ mdcHeader
  let plain := plain ++ Sha1.hash plain
  (ByteArray.mk #[1] ++ Aes.cfbEncrypt (Aes.expand s.key) (Bytes.replicate 16 0) plain, g)

/-- Encrypt a payload, signed when a signer is given: the integrity-protected data packet. -/
def sealData (s : SessionKey) (p : Payload) (signer : Option Signer) (g : Entropy) :
    Outcome (ByteArray × Entropy) := do
  let sig ← match signer with
    | some sg => some <$> createSignature sg.key p.data p.format.signatureMode sg.hash sg.created
    | none => pure none
  let head ← match sig with
    | some sg => do
      let some issuer := sg.issuerId? | throw (.encryption "signature names no issuer")
      let ops : OnePassPacket := ⟨sg.typ, sg.hash, sg.algorithm, issuer, true⟩
      pure (Packet.writeNew (.onePass ops))
    | none => pure ByteArray.empty
  let tail := match sig with
    | some sg => Packet.writeNew (.signature sg)
    | none => ByteArray.empty
  let literal ← (Header.packetWithin .literalData p.literal.body).mapError PacketError.asEncryptionError
  let inner := head ++ literal ++ tail
  let (body, g) := protect s inner g
  let data ← (Header.packetWithin .symEncryptedProtectedData body).mapError PacketError.asEncryptionError
  return (data, g)

/-- Public-key session packets for every key of a ring, each to its encryption key at `at`. -/
def keyPacketsFor (s : SessionKey) (recipients : KeyRing) (at_ : Int) (g : Entropy) :
    Outcome (ByteArray × Entropy) := do
  if recipients.keys.isEmpty then throw (.keyParse "no recipient keys")
  let (packets, g) ← recipients.keys.foldlM (fun (acc : List PublicKeySessionPacket × Entropy) k => do
    let some m := k.encryptionKey at_
      | throw (.keyParse ("key " ++ k.keyId ++ " has no valid encryption key"))
    let (p, g) ← sealFor s m acc.2
    pure (acc.1 ++ [p], g)) ([], g)
  return (KeyPackets.write { publicKey := packets }, g)

/-- A password session packet for a session key. -/
def passwordPacketFor (s : SessionKey) (password : String) (hash : HashAlgorithm) (count : UInt8)
    (g : Entropy) : ByteArray × Entropy :=
  let (p, g) := sealWithPassword s password hash count g
  (KeyPackets.write { password := [p] }, g)

/-- Decrypted literal data and the signatures that travelled with it. -/
structure LiteralContent where
  data : ByteArray
  fileName : String
  isText : Bool
  signatures : List Signature := []
deriving Inhabited

/-- Check the signatures of decrypted content against verifying keys at a time. -/
def LiteralContent.verify (c : LiteralContent) (verifiers : Option KeyRing) (at_ : Int) : Verified :=
  evaluateAll c.signatures verifiers at_ (fun s m => s.verifies m.key c.data)

/-- The encrypted part of a message: the version and the data of its protected data packet. -/
structure Protected where
  version : Nat
  data : ByteArray

/-- A message before decryption. -/
structure ParsedMessage where
  keys : KeyPackets
  body : Protected

/-- Split binary message data into session key packets and the first protected data packet;
unreadable packets are skipped, data without integrity protection is refused. -/
def ParsedMessage.parse (binary : ByteArray) : Outcome ParsedMessage := do
  (Header.checkFraming binary).mapError PacketError.asMessageError
  let (keys, body) ← (Packet.readAll binary).foldlM
    (fun (acc : KeyPackets × Option Protected) item =>
      match item with
      | .ok (.publicKeySession p) => .ok ({ acc.1 with publicKey := acc.1.publicKey ++ [p] }, acc.2)
      | .ok (.passwordSession p) => .ok ({ acc.1 with password := acc.1.password ++ [p] }, acc.2)
      | .ok (.protectedData v d) => .ok (acc.1, acc.2.orElse (fun _ => some ⟨v, d⟩))
      | .ok (.encryptedData _) => .error (.decryptionFailed "message is not integrity protected")
      | _ => .ok acc) ({}, none)
  let some body := body | throw (.decryptionFailed "no encrypted data packet")
  return ⟨keys, body⟩

/-- Decrypt and authenticate protected data, returning the inner packets; `wrongKey` is the
failure when the repeated bytes show that the session key is wrong. -/
def decryptProtected (s : SessionKey) (p : Protected) (wrongKey : EngineError) : Outcome ByteArray := do
  if p.version != 1 then throw (.decryptionFailed s!"unsupported SEIPD version {p.version}")
  if p.data.size < 16 + 2 + 22 then throw (.decryptionFailed "encrypted data packet is truncated")
  let k := Aes.expand s.key
  let head := Aes.cfbDecrypt k (Bytes.replicate 16 0) (p.data.extract 0 19)
  if !Bytes.equal (head.extract 14 16) (head.extract 16 18) then throw wrongKey
  let plain := Aes.cfbDecrypt k (Bytes.replicate 16 0) p.data
  let body := plain.extract 0 (plain.size - 20)
  let inner := plain.extract 18 (plain.size - 22)
  if !Bytes.equal (plain.extract (plain.size - 22) (plain.size - 20)) mdcHeader ||
      !Bytes.equal (Sha1.hash body) (plain.extract (plain.size - 20) plain.size) then
    throw (PacketError.modificationDetected).asMessageError
  return inner

/-- The deepest nesting of compressed data that is read. -/
def maxNesting : Nat := 8

/-- Decompress the data of a compressed packet. -/
def decompress (method : CompressionCode) (data : ByteArray) : Outcome ByteArray :=
  let failed : Inflate.Halt → Outcome ByteArray
    | .truncated => .error (.decryptionFailed "failed to decompress data: incomplete deflate stream")
    | .corrupt => .error (.decryptionFailed "failed to decompress data: corrupt deflate stream")
  match method with
  | .uncompressed => .ok data
  | .zip => match Inflate.raw data with
    | .ok out => .ok out
    | .error h => failed h
  | .zlib => match Inflate.zlib data with
    | .ok out => .ok out
    | .error h => failed h
  | .bzip2 => .error (.decryptionFailed ("unsupported compressed data: " ++
      (PacketError.unimplemented "BZip2").display))
  | .other n => .error (.decryptionFailed ("unsupported compressed data: " ++
      (PacketError.unsupported s!"CompressionAlgorithm {n} is unsupported").display))

/-- What reading inner packets has found: the content (the first literal packet) and the
signatures. -/
structure Found where
  content : Option LiteralContent := none
  signatures : List Signature := []

/-- Take in one inner packet: the first literal packet is the content and signatures are kept
in order; `descend` reads the decompressed data of a compressed packet. -/
def collectEntry (descend : ByteArray → Found → Outcome Found) (found : Found) (item : PacketResult Packet) :
    Outcome Found := do
  match ← item.mapError PacketError.asMessageError with
  | .literal l =>
    if found.content.isSome then pure found
    else pure { found with content := some ⟨l.data, Utf8.decodeLossy l.fileName, !l.isBinary, []⟩ }
  | .signature s => pure { found with signatures := found.signatures ++ [s] }
  | .compressed m d => descend (← decompress m d) found
  | .onePass _ | .marker => pure found
  | other => throw (.decryptionFailed ("unexpected " ++ other.tag.name ++ " packet in encrypted data"))

/-- Read inner packets at a nesting depth, descending into compressed data. -/
def collect : Nat → ByteArray → Nat → Found → Outcome Found
  | 0, _, _, _ => .error (.decryptionFailed "compressed data is nested too deeply")
  | fuel + 1, data, depth, found => do
    if depth > maxNesting then throw (.decryptionFailed "compressed data is nested too deeply")
    (Header.checkFraming data).mapError PacketError.asMessageError
    (Packet.readAll data).foldlM (collectEntry fun inner => collect fuel inner (depth + 1)) found

/-- The content of decrypted inner packets, with its signatures. -/
def readContent (inner : ByteArray) : Outcome LiteralContent := do
  let found ← collect (maxNesting + 2) inner 0 {}
  let some c := found.content | throw (.decryptionFailed "message has no literal data")
  return { c with signatures := found.signatures }

namespace ParsedMessage

/-- Decrypt with a known session key. -/
def decryptWithSession (m : ParsedMessage) (s : SessionKey) : Outcome LiteralContent := do
  readContent (← decryptProtected s m.body (.decryptionFailed "session key does not match the data"))

/-- Decrypt with the keys of a ring. -/
def decryptWithKeys (m : ParsedMessage) (ring : KeyRing) (passphrase : Option String) :
    Outcome LiteralContent := do
  m.decryptWithSession (← openWithRing m.keys.publicKey ring passphrase)

/-- Decrypt with a password. -/
def decryptWithPassword (m : ParsedMessage) (password : String) : Outcome LiteralContent := do
  let s ← openWithPassword m.keys.password password
  readContent (← decryptProtected s m.body .wrongPassword)

end ParsedMessage

/-- The binary message of armored or binary input: the first armor block, which must be a
message. -/
def dearmorMessage (input : ByteArray) : Outcome ByteArray := do
  if !Armor.isArmored input then return input
  if let .error e := Utf8.decode input then
    throw (.decryptionFailed ("armored message is not UTF-8: " ++ e.message))
  match ← (Armor.readAll input).mapError PacketError.asMessageError with
  | b :: _ =>
    if b.kind != .message then throw (.decryptionFailed ("expected a message block, found " ++ b.kind.name))
    return b.data
  | [] => throw (PacketError.message "no armor block found").asMessageError

end SealedMail
