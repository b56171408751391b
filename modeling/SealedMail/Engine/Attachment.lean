import SealedMail.Engine.Basic
import SealedMail.Message.Attachment

/-! # Attachments through the engine

Encryption to public keys gives the split message; encryption with a password gives the
whole message, armored. Processors made here take the engine's time and configuration.
-/

namespace SealedMail

namespace Engine

/-- A processor encrypting to the keys of an armored or binary public key. -/
def attachmentProcessor (e : Engine) (estimatedSize : Nat) (fileName : String) (publicKey : ByteArray)
    (g : Entropy) : Outcome (AttachmentProcessor × Entropy) := do
  let recipients ← KeyRing.parse publicKey
  AttachmentProcessor.create estimatedSize fileName recipients e.config e.now g

/-- Encrypt an attachment to public keys. -/
def encryptAttachment (e : Engine) (data : ByteArray) (fileName : String) (publicKey : ByteArray)
    (g : Entropy) : Outcome (EncryptedSplit × Entropy) := do
  let (p, g) ← e.attachmentProcessor data.size fileName publicKey g
  let p ← p.process data
  let (split, g) ← (p.finish g).2
  return (split, g)

/-- Encrypt an attachment with a password: the armored message. -/
def encryptAttachmentWithPassword (e : Engine) (data : ByteArray) (password : String) (g : Entropy) :
    Outcome (String × Entropy) := do
  let (p, g) := AttachmentProcessor.withPassword data.size "" password e.config e.now g
  let p ← p.process data
  let (split, g) ← (p.finish g).2
  return (e.armorMessage split.message, g)

/-- Decrypt a split attachment with private keys and a passphrase. -/
def decryptAttachment (keyPacket dataPacket privateKeys : ByteArray) (passphrase : String) :
    Outcome ByteArray := do
  let ring ← KeyRing.parse privateKeys
  decryptSplitWithKeys keyPacket dataPacket ring (some passphrase)

end Engine

end SealedMail
