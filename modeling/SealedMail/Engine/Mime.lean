import SealedMail.Engine.Basic
import SealedMail.Mime.Decrypt

/-! # MIME decryption through the engine

The private keys are read first, then the verifying key (blank for none); a failure of
either is delivered as the only event. The passphrase unlocks the private keys.
-/

namespace SealedMail

namespace Engine

/-- Decrypt an armored PGP/MIME message into its events. -/
def decryptMimeMessage (encryptedText : String) (verifierKey privateKeys : ByteArray) (passphrase : String)
    (verifyTime : Int) : List MimeEvent :=
  let rings := do
    let keys ← KeyRing.parse privateKeys
    let verifiers ← optionalRing verifierKey
    pure (keys, verifiers)
  match rings with
  | .error e => [.error e]
  | .ok (keys, verifiers) =>
    let d : MimeDecryptor := { privateKeys := keys, passphrase := some passphrase }
    let d := match verifiers with
      | some ring => d.withVerifiers ring verifyTime
      | none => d
    d.decrypt encryptedText.toUTF8

end Engine

end SealedMail
