import SealedMail.Mime.Walk
import SealedMail.Message.Basic

/-! # Decrypting a PGP/MIME message

The message (armored or binary) is decrypted with a ring of private keys, its plaintext read
as MIME and walked. What is delivered, in order: one body (the HTML part if there is one,
else the plain text part, else empty plain text), the attachments, the protected header
blocks, and one verification status. The status comes from the signed MIME part when it
carries a signature, else from the signatures inside the encrypted data. Any failure instead
delivers a single error, and nothing else.
-/

namespace SealedMail

/-- One thing a MIME decryption delivers. -/
inductive MimeEvent where
  | body (text mimeType : String)
  /-- A raw header block and the decoded content. -/
  | attachment (headers : String) (data : ByteArray)
  | encryptedHeaders (headers : String)
  | verified (status : VerificationStatus)
  | error (e : EngineError)

/-- A single-use decryptor of one MIME message. -/
structure MimeDecryptor where
  privateKeys : KeyRing
  passphrase : Option String
  /-- The verifying keys; an empty ring counts as none. -/
  verifiers : Option KeyRing := none
  verifyTime : Int := 0

namespace MimeDecryptor

/-- Check signatures with a ring at a time; an empty ring leaves no verifiers. -/
def withVerifiers (d : MimeDecryptor) (ring : KeyRing) (at_ : Int) : MimeDecryptor :=
  { d with verifiers := if ring.keys.isEmpty then none else some ring, verifyTime := at_ }

/-- Decrypt, read and walk the message; the gathered parts and the verification status. -/
def extract (d : MimeDecryptor) (encrypted : ByteArray) : Outcome (Mime.Gathered × VerificationStatus) := do
  let binary ← dearmorMessage encrypted
  let m ← ParsedMessage.parse binary
  let content ← m.decryptWithKeys d.privateKeys d.passphrase
  let some doc := Mime.parse content.data
    | throw (.mimeParse "decrypted data is not a MIME message")
  let g ← doc.gather
  let status := match g.signature with
    | some c =>
      if c.hasSignature then (c.verify d.verifiers d.verifyTime).status
      else (content.verify d.verifiers d.verifyTime).status
    | none => (content.verify d.verifiers d.verifyTime).status
  return (g, status)

/-- The events of decrypting a message. -/
def decrypt (d : MimeDecryptor) (encrypted : ByteArray) : List MimeEvent :=
  match d.extract encrypted with
  | .ok (g, status) =>
    let (text, mimeType) := match g.html, g.plain with
      | some h, _ => (h, "text/html")
      | none, some p => (p, "text/plain")
      | none, none => ("", "text/plain")
    [MimeEvent.body text mimeType] ++ g.attachments.toList.map (fun (h, b) => .attachment h b) ++
      g.encryptedHeaders.toList.map .encryptedHeaders ++ [.verified status]
  | .error e => [.error e]

end MimeDecryptor

end SealedMail
