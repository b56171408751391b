import SealedMail.Text.Escape

/-! # Packet errors

The ways reading, writing and using OpenPGP packets can fail. Each error has a sentence
(`display`) and a structural rendering (`debug`) that names the variant and its
contents; an error that wraps another one shows the inner error in its structural form.
-/

namespace SealedMail

/-- The grammar rule at which reading failed. -/
inductive ParseRule where
  | tagBits
  | mapRes
  | tag
  | eof
  | verify
  | mapOpt
  | other (name : String)
deriving Repr, DecidableEq, Inhabited

/-- The name of a grammar rule. -/
def ParseRule.name : ParseRule → String
  | .tagBits => "TagBits"
  | .mapRes => "MapRes"
  | .tag => "Tag"
  | .eof => "Eof"
  | .verify => "Verify"
  | .mapOpt => "MapOpt"
  | .other n => n

/-- Why a packet operation failed. -/
inductive PacketError where
  /-- A grammar rule did not match. -/
  | parsing (rule : ParseRule)
  /-- The input ended while `needed` more bytes were expected. -/
  | incomplete (needed : Nat)
  /-- A packet's length runs past the end of its input. -/
  | packetIncomplete
  /-- A packet body could not be read; `inner` says why. -/
  | invalidContent (inner : PacketError)
  /-- A packet body broke a grammar rule. -/
  | invalidPacket (rule : ParseRule)
  /-- A feature is recognised but not supported. -/
  | unsupported (what : String)
  /-- A feature is not implemented. -/
  | unimplemented (what : String)
  /-- A failure described in words. -/
  | message (text : String)
  /-- Decrypted secret data did not check out, usually a wrong passphrase. -/
  | invalidInput
  /-- The modification detection code did not match. -/
  | modificationDetected
  /-- A reader failed; `detail` is its structural rendering. -/
  | io (detail : String)
  /-- An RSA operation failed; `detail` names the failure. -/
  | rsa (detail : String)
  /-- A signature value was rejected. -/
  | signature
  /-- An elliptic-curve operation failed. -/
  | ellipticCurve
  /-- A key wrap did not unwrap. -/
  | keyWrap
deriving Repr, Inhabited

namespace PacketError

/-- The structural rendering of an error. -/
def debug : PacketError → String
  | .parsing r => "ParsingError(" ++ r.name ++ ")"
  | .incomplete n => "Incomplete(Size(" ++ toString n ++ "))"
  | .packetIncomplete => "PacketIncomplete"
  | .invalidContent e => "InvalidPacketContent(" ++ debug e ++ ")"
  | .invalidPacket r => "PacketError(" ++ r.name ++ ")"
  | .unsupported s => "Unsupported(" ++ Escape.string s ++ ")"
  | .unimplemented s => "Unimplemented(" ++ Escape.string s ++ ")"
  | .message s => "Message(" ++ Escape.string s ++ ")"
  | .invalidInput => "InvalidInput"
  | .modificationDetected => "MdcError"
  | .io d => "IOError(" ++ d ++ ")"
  | .rsa d => "RSAError(" ++ d ++ ")"
  | .signature => "SignatureError(signature::Error { source: None })"
  | .ellipticCurve => "EllipticCurve(Error)"
  | .keyWrap => "AesKw(IntegrityCheckFailed)"

/-- The sentence of an error. -/
def display : PacketError → String
  | .parsing r => "failed to parse " ++ r.name
  | .incomplete n => "incomplete input: Size(" ++ toString n ++ ")"
  | .packetIncomplete => "Incomplete Packet"
  | .invalidContent e => "Invalid Packet Content " ++ debug e
  | .invalidPacket r => "Invalid Packet " ++ r.name
  | .unsupported s => "Unsupported: " ++ Escape.string s
  | .unimplemented s => "Not yet implemented: " ++ Escape.string s
  | .message s => Escape.string s
  | .invalidInput => "invalid input"
  | .modificationDetected => "Modification Detected"
  | .io d => "io error: " ++ d
  | .rsa d => "rsa error: " ++ d
  | .signature => "Signature signature::Error { source: None }"
  | .ellipticCurve => "elliptic error: Error"
  | .keyWrap => "AES key wrap error integrity check failed"

/-- A reader failure whose payload is a text, as reading armor reports it. -/
def ioText (text : String) : PacketError :=
  .io ("Custom \x7b kind: Other, error: " ++ Escape.string (Escape.string text) ++ " \x7d")

end PacketError

/-- The result of a packet operation. -/
abbrev PacketResult (α : Type) := Except PacketError α

end SealedMail
