import SealedMail.Message.Signing

/-! # Collecting a signed body and its signatures

A signed MIME entity arrives in chunks, its detached signatures separately. The collector
keeps the body in canonical form (every bare line feed written as CR LF, also across chunk
boundaries) and the signature packets it has been given. A signature is then checked over
the canonical body exactly, whatever its signature type says, with one of the five hash
algorithms the engine computes.
-/

namespace SealedMail

/-- A signed body taken in chunk by chunk, with the signatures that cover it. -/
structure SignatureCollector where
  /-- The line-ending state carried from one chunk to the next. -/
  normalizer : Lines.Normalizer := {}
  /-- The canonical body so far. -/
  body : ByteArray := ByteArray.empty
  /-- The signature packets taken so far, in order. -/
  signatures : List Signature := []
deriving Inhabited

namespace SignatureCollector

/-- Take a chunk of the signed body. -/
def accept (c : SignatureCollector) (chunk : ByteArray) : SignatureCollector :=
  let (canonical, normalizer) := c.normalizer.feed chunk
  { c with normalizer, body := c.body ++ canonical }

/-- Take armored or binary signature data; all its signature packets are kept. -/
def acceptSignature (c : SignatureCollector) (data : ByteArray) : Outcome SignatureCollector := do
  let sigs ← parseSignatures data
  return { c with signatures := c.signatures ++ sigs }

/-- Whether a signature has been taken. -/
def hasSignature (c : SignatureCollector) : Bool := !c.signatures.isEmpty

/-- The length of the canonical body so far. -/
def bodyLength (c : SignatureCollector) : Nat := c.body.size

/-- The signatures, armored as one block; empty text when there are none. -/
def armored (c : SignatureCollector) : String :=
  if c.signatures.isEmpty then ""
  else Armor.write .signature [] (Bytes.concat (c.signatures.map (fun s => Packet.write (.signature s))))

/-- Whether a signature is valid over the canonical body, hashed as it stands. -/
def checks (c : SignatureCollector) (s : Signature) (k : KeyPacket) : Bool :=
  match s.hash.toAlgorithm? with
  | none => false
  | some h =>
    let d := h.digest (c.body ++ s.digestSuffix)
    Bytes.equal (d.extract 0 2) s.prefix2 && k.verifyDigest s.hash d s.values

/-- Check the signatures against verifying keys at a time. -/
def verify (c : SignatureCollector) (verifiers : Option KeyRing) (at_ : Int) : Verified :=
  evaluateAll c.signatures verifiers at_ (fun s m => c.checks s m.key)

end SignatureCollector

end SealedMail
