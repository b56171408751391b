import SealedMail.Packet.Error

/-! # Engine errors

Every failure of an engine operation belongs to one of twelve classes; most carry a
detail text that says what went wrong inside the class.
-/

namespace SealedMail

/-- Why an engine operation failed. -/
inductive EngineError where
  /-- Key bytes or armor could not be read, or a key cannot serve. -/
  | keyParse (detail : String)
  /-- A secret key did not unlock with the passphrase. -/
  | wrongPassphrase
  /-- A password session key packet did not open with the password. -/
  | wrongPassword
  /-- No key of the ring opens a session key packet. -/
  | noMatchingKey (detail : String)
  /-- Ciphertext is malformed, unsupported or tampered with. -/
  | decryptionFailed (detail : String)
  /-- An argument is out of its domain. -/
  | invalidParameter (detail : String)
  /-- An object was used out of order. -/
  | invalidState (detail : String)
  /-- A decrypted MIME message could not be read. -/
  | mimeParse (detail : String)
  /-- Signature bytes or armor could not be read. -/
  | signatureParse (detail : String)
  /-- A key could not be generated. -/
  | keyGeneration (detail : String)
  /-- Encryption or signing failed. -/
  | encryption (detail : String)
  /-- Reading or writing failed. -/
  | io (detail : String)
deriving Repr, DecidableEq, Inhabited

namespace EngineError

/-- The class name of an error. -/
def kind : EngineError → String
  | .keyParse _ => "KeyParse"
  | .wrongPassphrase => "WrongPassphrase"
  | .wrongPassword => "WrongPassword"
  | .noMatchingKey _ => "NoMatchingKey"
  | .decryptionFailed _ => "DecryptionFailed"
  | .invalidParameter _ => "InvalidParameter"
  | .invalidState _ => "InvalidState"
  | .mimeParse _ => "MimeParse"
  | .signatureParse _ => "SignatureParse"
  | .keyGeneration _ => "KeyGeneration"
  | .encryption _ => "Encryption"
  | .io _ => "Io"

/-- The full wording of an error. -/
def message : EngineError → String
  | .keyParse d => "Failed to parse key: " ++ d
  | .wrongPassphrase => "Wrong passphrase"
  | .wrongPassword => "Wrong password"
  | .noMatchingKey d => "No matching key: " ++ d
  | .decryptionFailed d => "Decryption failed: " ++ d
  | .invalidParameter d => "Invalid parameter: " ++ d
  | .invalidState d => "Invalid state: " ++ d
  | .mimeParse d => "Failed to parse MIME message: " ++ d
  | .signatureParse d => "Failed to parse signature: " ++ d
  | .keyGeneration d => "Key generation failed: " ++ d
  | .encryption d => "Encryption failed: " ++ d
  | .io d => "I/O error: " ++ d

end EngineError

namespace PacketError

/-- A packet failure while reading or building keys. -/
def asKeyError (e : PacketError) : EngineError := .keyParse e.display

/-- A packet failure while reading or opening a message; a failed modification check
has its own wording. -/
def asMessageError : PacketError → EngineError
  | .modificationDetected => .decryptionFailed "modification detected"
  | e => .decryptionFailed e.display

/-- A packet failure while reading a signature. -/
def asSignatureError (e : PacketError) : EngineError := .signatureParse e.display

/-- A packet failure while encrypting or signing. -/
def asEncryptionError (e : PacketError) : EngineError := .encryption e.display

end PacketError

/-- The result of an engine operation. -/
abbrev Outcome (α : Type) := Except EngineError α

end SealedMail
