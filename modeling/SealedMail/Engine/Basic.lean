import SealedMail.Message.Basic
import SealedMail.Config

/-! # The engine

The operations a mail client calls, over armored or binary keys. An engine carries its
configuration and the time its validity checks are made at; operations that make random
bytes take a generator and hand back its next state.

Keys given as text are read as their UTF-8 bytes. A private key that must sign is the first
key of the input that unlocks with the passphrase and has a signing key. An empty (or
all-blank) verifying key means that there is nothing to verify with.
-/

namespace SealedMail

/-- An engine: its configuration and the time of its checks. -/
structure Engine where
  config : EngineConfig := {}
  now : Int

namespace Engine

/-- Armor a binary message with the configured headers. -/
def armorMessage (e : Engine) (binary : ByteArray) : String :=
  Armor.write .message e.config.armorHeaders binary

/-- Whether no key of the input can still be encrypted to. -/
def isKeyExpired (e : Engine) (publicKey : ByteArray) : Outcome Bool := do
  let ring ← KeyRing.parse publicKey
  return ring.keys.all (fun k => (k.encryptionKey e.now).isNone)

/-- The first key of the input that unlocks with the passphrase and can sign. -/
def unlockSigner (privateKey : ByteArray) (passphrase : String) : Outcome Key := do
  let ring ← (← KeyRing.parse privateKey).unlock passphrase
  match ring.keys.find? (fun k => k.signingKey.isSome) with
  | some k => return k
  | none => throw (.keyParse "no private key able to sign")

/-- A verifying key ring, or none for blank input. -/
def optionalRing (data : ByteArray) : Outcome (Option KeyRing) :=
  if data.data.all (fun x => x == 32 || x == 9 || x == 10 || x == 12 || x == 13) then .ok none
  else some <$> KeyRing.parse data

/-- Text as the UTF-8 decoding of data, bad sequences replaced. -/
def intoText (data : ByteArray) : String := Utf8.decodeLossy data

/-- The size of a random token asked for without one. -/
def defaultTokenSize : Nat := 32

/-- `size` random bytes; a size of zero is refused. -/
def randomTokenWith (size : Nat) (g : Entropy) : Outcome (ByteArray × Entropy) :=
  if size = 0 then .error (.invalidParameter "token size must be positive") else .ok (g.bytes size)

/-- A random token of the default size. -/
def randomToken (g : Entropy) : Outcome (ByteArray × Entropy) := randomTokenWith defaultTokenSize g

/-- A new random session key for the configured cipher. -/
def newSession (e : Engine) (g : Entropy) : SessionKey × Entropy :=
  let (key, g) := g.bytes e.config.cipher.keySize
  (⟨e.config.cipher, key⟩, g)

/-- Text literal data stamped with the engine's time. -/
def textPayload (e : Engine) (data : ByteArray) : Payload := ⟨data, .utf8, "", e.now⟩

/-- Encrypt text to the keys of a ring, signed when a private key is given. -/
def encryptMessage (e : Engine) (plainText : String) (publicKey : ByteArray) (privateKey passphrase : String)
    (trim : Bool) (g : Entropy) : Outcome (String × Entropy) := do
  let recipients ← KeyRing.parse publicKey
  let text := if trim then Lines.trimLines plainText else plainText
  let signer ← if privateKey.isEmpty then pure none
    else some <$> unlockSigner privateKey.toUTF8 passphrase
  let (session, g) := e.newSession g
  let (keys, g) ← keyPacketsFor session recipients e.now g
  let (data, g) ← sealData session (e.textPayload text.toUTF8)
    (signer.map (fun k => ⟨k, e.config.hash, e.now⟩)) g
  return (e.armorMessage (keys ++ data), g)

/-- Encrypt text with a password. -/
def encryptMessageWithPassword (e : Engine) (plainText password : String) (g : Entropy) :
    Outcome (String × Entropy) := do
  let (session, g) := e.newSession g
  let (keys, g) := passwordPacketFor session password e.config.hash e.config.s2kCount g
  let (data, g) ← sealData session (e.textPayload plainText.toUTF8) none g
  return (e.armorMessage (keys ++ data), g)

/-- Decrypt a message with private keys and a passphrase. -/
def decryptContent (encrypted : ByteArray) (privateKeys : ByteArray) (passphrase : String) :
    Outcome LiteralContent := do
  let ring ← KeyRing.parse privateKeys
  let binary ← dearmorMessage encrypted
  (← ParsedMessage.parse binary).decryptWithKeys ring (some passphrase)

/-- Decrypt a message to text with private keys and a passphrase. -/
def decryptMessage (encrypted : String) (privateKeys : ByteArray) (passphrase : String) : Outcome String := do
  return intoText (← decryptContent encrypted.toUTF8 privateKeys passphrase).data

/-- Decrypt a message to text with a password. -/
def decryptMessageWithPassword (encrypted password : String) : Outcome String := do
  let binary ← dearmorMessage encrypted.toUTF8
  return intoText (← (← ParsedMessage.parse binary).decryptWithPassword password).data

/-- Decrypt a message and check its embedded signatures at a time (zero skips expiry). -/
def decryptVerify (encrypted : String) (verifierKey privateKeys : ByteArray) (passphrase : String)
    (verifyTime : Int) : Outcome (String × VerificationStatus) := do
  let verifiers ← optionalRing verifierKey
  let content ← decryptContent encrypted.toUTF8 privateKeys passphrase
  return (intoText content.data, (content.verify verifiers verifyTime).status)

/-- The session key of public-key session packets. -/
def sessionFromKeyPacket (keyPacket privateKeys : ByteArray) (passphrase : String) : Outcome SessionKey := do
  let ring ← KeyRing.parse privateKeys
  let packets ← KeyPackets.read (← dearmorMessage keyPacket)
  openWithRing packets.publicKey ring (some passphrase)

/-- The session key of password session packets. -/
def sessionFromPasswordPacket (keyPacket : ByteArray) (password : String) : Outcome SessionKey := do
  let packets ← KeyPackets.read (← dearmorMessage keyPacket)
  openWithPassword packets.password password

/-- Public-key session packets holding a session key for the keys of a ring. -/
def keyPacketWithPublicKey (e : Engine) (s : SessionKey) (publicKey : ByteArray) (g : Entropy) :
    Outcome (ByteArray × Entropy) := do
  keyPacketsFor s (← KeyRing.parse publicKey) e.now g

/-- A password session packet holding a session key. -/
def passwordKeyPacket (e : Engine) (s : SessionKey) (password : String) (g : Entropy) : ByteArray × Entropy :=
  passwordPacketFor s password e.config.hash e.config.s2kCount g

/-- An armored detached signature over data by the first private key that can sign. -/
def signDetachedWith (e : Engine) (data privateKey : ByteArray) (passphrase : String) (mode : SignatureMode) :
    Outcome String := do
  let key ← unlockSigner privateKey passphrase
  let sig ← signDetached key data mode e.config.hash e.now
  return armorSignature sig e.config.armorHeaders

/-- Sign text (trailing blanks of its lines removed when asked). -/
def signText (e : Engine) (plainText : String) (privateKey : ByteArray) (passphrase : String) (trim : Bool) :
    Outcome String :=
  e.signDetachedWith (if trim then Lines.trimLines plainText else plainText).toUTF8 privateKey passphrase .text

/-- Whether a detached signature over data is good by the keys given. -/
def verifyDetachedWith (signature data publicKey : ByteArray) (verifyTime : Int) : Outcome Bool := do
  let ring ← KeyRing.parse publicKey
  return (← verifyDetached signature data ring verifyTime).isValid

/-- Whether a detached signature over text (trailing blanks of its lines removed) is good. -/
def verifyText (signature plainText : String) (publicKey : ByteArray) (verifyTime : Int) : Outcome Bool :=
  verifyDetachedWith signature.toUTF8 (Lines.trimLines plainText).toUTF8 publicKey verifyTime

end Engine

end SealedMail
