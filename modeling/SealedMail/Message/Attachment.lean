import SealedMail.Message.Basic
import SealedMail.Config

/-! # Attachments

An attachment is encrypted as a split message: the session key packets on one side and the
integrity-protected data packet on the other, so that the key packets can be re-encrypted
without touching the data. The processor makes the session key and the key packets when it
is created, buffers the data it is fed, and seals it as binary literal data (with the file
name and the date) when it is finished. Once finished it refuses further work.
-/

namespace SealedMail

/-- The stage of an attachment processor. -/
inductive ProcessorState where
  | created
  | processing
  | finished
deriving DecidableEq, Inhabited, Repr

/-- The name of a stage. -/
def ProcessorState.name : ProcessorState → String
  | .created => "created"
  | .processing => "processing"
  | .finished => "finished"

/-- A message split into its session key packets and its data packet. -/
structure EncryptedSplit where
  keyPacket : ByteArray
  dataPacket : ByteArray

/-- The whole binary message. -/
def EncryptedSplit.message (s : EncryptedSplit) : ByteArray := s.keyPacket ++ s.dataPacket

/-- An attachment being encrypted. -/
structure AttachmentProcessor where
  state : ProcessorState := .created
  fileName : String
  /-- The size announced at creation; it bounds nothing. -/
  estimatedSize : Nat
  /-- The date of the literal data, never negative. -/
  date : Int
  session : SessionKey
  keyPacket : ByteArray
  /-- The data fed so far. -/
  plaintext : ByteArray := ByteArray.empty

namespace AttachmentProcessor

/-- The error of using a finished processor. -/
def finishedError : EngineError := .invalidState "attachment processor already finished"

/-- A processor with its session and key packets. -/
def withKeyPacket (session : SessionKey) (keyPacket : ByteArray) (estimatedSize : Nat) (fileName : String)
    (at_ : Int) : AttachmentProcessor :=
  { fileName, estimatedSize, date := max at_ 0, session, keyPacket }

/-- A processor encrypting to the keys of a ring, each to its encryption key at `at`. -/
def create (estimatedSize : Nat) (fileName : String) (recipients : KeyRing) (config : EngineConfig)
    (at_ : Int) (g : Entropy) : Outcome (AttachmentProcessor × Entropy) := do
  let (key, g) := g.bytes config.cipher.keySize
  let session : SessionKey := ⟨config.cipher, key⟩
  let (packets, g) ← keyPacketsFor session recipients at_ g
  return (withKeyPacket session packets estimatedSize fileName at_, g)

/-- A processor encrypting with a password. -/
def withPassword (estimatedSize : Nat) (fileName password : String) (config : EngineConfig) (at_ : Int)
    (g : Entropy) : AttachmentProcessor × Entropy :=
  let (key, g) := g.bytes config.cipher.keySize
  let session : SessionKey := ⟨config.cipher, key⟩
  let (packets, g) := passwordPacketFor session password config.hash config.s2kCount g
  (withKeyPacket session packets estimatedSize fileName at_, g)

/-- The number of bytes buffered. -/
def bufferedLength (p : AttachmentProcessor) : Nat := p.plaintext.size

/-- Feed a chunk of data. -/
def process (p : AttachmentProcessor) (chunk : ByteArray) : Outcome AttachmentProcessor :=
  if p.state == .finished then .error finishedError
  else .ok { p with state := .processing, plaintext := p.plaintext ++ chunk }

/-- Seal the buffered data: the processor afterwards, and the split message. The buffer is
handed over before the data is sealed, so a processor whose data fails to seal keeps its stage
but not its data; a sealed one is finished and has handed over its key packets too. -/
def finish (p : AttachmentProcessor) (g : Entropy) : AttachmentProcessor × Outcome (EncryptedSplit × Entropy) :=
  if p.state == .finished then (p, .error finishedError)
  else
    let taken := { p with plaintext := ByteArray.empty }
    let payload : Payload := { data := p.plaintext, format := .binary, fileName := p.fileName, date := p.date }
    match sealData p.session payload none g with
    | .error e => (taken, .error e)
    | .ok (data, g) => ({ taken with state := .finished, keyPacket := ByteArray.empty }, .ok (⟨p.keyPacket, data⟩, g))

end AttachmentProcessor

/-- Decrypt the data of a split message with private keys. -/
def decryptSplitWithKeys (keyPacket dataPacket : ByteArray) (ring : KeyRing) (passphrase : Option String) :
    Outcome ByteArray := do
  let m ← ParsedMessage.parse (keyPacket ++ dataPacket)
  return (← m.decryptWithKeys ring passphrase).data

/-- Decrypt the data of a split message with a password. -/
def decryptSplitWithPassword (keyPacket dataPacket : ByteArray) (password : String) : Outcome ByteArray := do
  let m ← ParsedMessage.parse (keyPacket ++ dataPacket)
  return (← m.decryptWithPassword password).data

end SealedMail
