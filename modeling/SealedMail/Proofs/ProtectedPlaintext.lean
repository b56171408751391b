import Mathlib
import SealedMail.Engine.Attachment
import SealedMail.Engine.Mime

/-! # Plaintext comes only from the integrity-protected packet

Every operation that returns plaintext reads the binary message with `ParsedMessage.parse`:
the session key packets are gathered, the first integrity-protected data packet is kept, and
data without integrity protection anywhere in the packet stream refuses the whole message
(`ParsedMessage.parse_unprotected`). Decryption then opens that one packet: the session key
must pass the quick check on its first block and the modification detection code must
verify, and the content is the first literal data among the inner packets
(`ProtectedContent`).

So for every operation: a stream holding unprotected data returns no plaintext, and fails as
a decryption failure unless reading the key input fails first; and whatever plaintext,
file content, MIME part or signature status is returned is read from the first protected
packet alone (`plaintext_only_from_protected_packet`). The keys are read before the message
is looked at, so a bad key input reports its own error even when the message holds
unprotected data (`key_error_precedes_unprotected_data`).
-/

namespace SealedMail

/-! ## Steps of an outcome -/

namespace Outcome

variable {α β : Type} {r : Outcome α} {k : α → Outcome β}

/-- A bound outcome that succeeds succeeded at its first step. -/
theorem bind_eq_ok {b : β} (ok : r >>= k = .ok b) : ∃ a, r = .ok a ∧ k a = .ok b := by
  cases r with
  | error e => exact absurd ok (by simp [bind, Except.bind])
  | ok a => exact ⟨a, rfl, ok⟩

/-- A bound outcome that fails failed at its first step or after it. -/
theorem bind_eq_error {e : EngineError} (failed : r >>= k = .error e) :
    r = .error e ∨ ∃ a, r = .ok a ∧ k a = .error e := by
  cases r with
  | error e' => exact .inl (by simpa [bind, Except.bind] using failed)
  | ok a => exact .inr ⟨a, rfl, failed⟩

end Outcome

/-! ## The packets a message is read from -/

namespace Packet

/-- Whether a stream item is data without integrity protection. -/
def isUnprotected : PacketResult Packet → Bool
  | .ok (.encryptedData _) => true
  | _ => false

/-- The protected data an item carries, if it is an integrity-protected data packet. -/
def protectedBody? : PacketResult Packet → Option Protected
  | .ok (.protectedData v d) => some ⟨v, d⟩
  | _ => none

end Packet

/-- Whether the packet stream of a binary message holds data without integrity protection. -/
def HasUnprotected (binary : ByteArray) : Prop := (Packet.readAll binary).any Packet.isUnprotected

/-- The first integrity-protected data packet of a binary message. -/
def firstProtected (binary : ByteArray) : Option Protected :=
  (Packet.readAll binary).findSome? Packet.protectedBody?

/-- A packet failure met while reading a message is reported as a decryption failure. -/
theorem PacketError.asMessageError_eq (e : PacketError) : ∃ d, e.asMessageError = .decryptionFailed d := by
  unfold PacketError.asMessageError
  split <;> exact ⟨_, rfl⟩

namespace ParsedMessage

/-- One packet of the stream while a message is split: session key packets are gathered, the
first protected data packet is kept, unprotected data refuses the message. -/
def gather (acc : KeyPackets × Option Protected) (item : PacketResult Packet) :
    Outcome (KeyPackets × Option Protected) :=
  match item with
  | .ok (.publicKeySession p) => .ok ({ acc.1 with publicKey := acc.1.publicKey ++ [p] }, acc.2)
  | .ok (.passwordSession p) => .ok ({ acc.1 with password := acc.1.password ++ [p] }, acc.2)
  | .ok (.protectedData v d) => .ok (acc.1, acc.2.orElse (fun _ => some ⟨v, d⟩))
  | .ok (.encryptedData _) => .error (.decryptionFailed "message is not integrity protected")
  | _ => .ok acc

theorem parse_eq (binary : ByteArray) :
    ParsedMessage.parse binary = (do
      (Header.checkFraming binary).mapError PacketError.asMessageError
      let (keys, body) ← (Packet.readAll binary).foldlM gather ({}, none)
      let some body := body | throw (.decryptionFailed "no encrypted data packet")
      return ⟨keys, body⟩) := rfl

theorem gather_unprotected {item : PacketResult Packet} (unprotected : Packet.isUnprotected item)
    (acc : KeyPackets × Option Protected) :
    gather acc item = .error (.decryptionFailed "message is not integrity protected") := by
  cases item with
  | error => simp [Packet.isUnprotected] at unprotected
  | ok p => cases p <;> simp_all [gather, Packet.isUnprotected]

/-- Any other item moves the split on, keeping the protected packet found first. -/
theorem gather_protected {item : PacketResult Packet} (other : Packet.isUnprotected item = false)
    (acc : KeyPackets × Option Protected) :
    ∃ acc', gather acc item = .ok acc' ∧ acc'.2 = acc.2.orElse (fun _ => Packet.protectedBody? item) := by
  cases item with
  | error => exact ⟨acc, rfl, by cases acc.2 <;> rfl⟩
  | ok p => cases p <;> simp_all [gather, Packet.isUnprotected, Packet.protectedBody?]

theorem orElse_assoc {α : Type} (a b c : Option α) :
    (a.orElse fun _ => b).orElse (fun _ => c) = a.orElse fun _ => b.orElse fun _ => c := by
  cases a <;> rfl

/-- Unprotected data anywhere in the stream ends the split in a decryption failure. -/
theorem foldlM_gather_unprotected {items : List (PacketResult Packet)}
    (unprotected : items.any Packet.isUnprotected) (acc : KeyPackets × Option Protected) :
    ∃ d, items.foldlM gather acc = .error (.decryptionFailed d) := by
  induction items generalizing acc with
  | nil => simp at unprotected
  | cons item rest ih =>
    by_cases here : Packet.isUnprotected item
    · exact ⟨"message is not integrity protected",
        by simp [List.foldlM_cons, gather_unprotected here, bind, Except.bind]⟩
    · obtain ⟨acc', step, -⟩ := gather_protected (Bool.eq_false_iff.mpr here) acc
      have later : rest.any Packet.isUnprotected := by simpa [here] using unprotected
      simpa [List.foldlM_cons, step, bind, Except.bind] using ih later acc'

/-- A finished split keeps the first protected data packet of the stream. -/
theorem foldlM_gather_body {items : List (PacketResult Packet)} {acc acc' : KeyPackets × Option Protected}
    (split : items.foldlM gather acc = .ok acc') :
    acc'.2 = acc.2.orElse fun _ => items.findSome? Packet.protectedBody? := by
  induction items generalizing acc with
  | nil =>
    simp only [List.foldlM_nil, pure, Except.pure, Except.ok.injEq] at split
    subst split
    cases acc.2 <;> rfl
  | cons item rest ih =>
    cases here : Packet.isUnprotected item
    · obtain ⟨acc₁, step, kept⟩ := gather_protected here acc
      rw [List.foldlM_cons, step] at split
      rw [ih split, kept, orElse_assoc, List.findSome?_cons]
      cases Packet.protectedBody? item <;> rfl
    · simp [List.foldlM_cons, gather_unprotected here, bind, Except.bind] at split

/-- A binary message holding unprotected data is refused as a decryption failure, whether the
framing guard or the split stops it. -/
theorem parse_unprotected {binary : ByteArray} (unprotected : HasUnprotected binary) :
    ∃ d, ParsedMessage.parse binary = .error (.decryptionFailed d) := by
  rw [parse_eq]
  cases framing : Header.checkFraming binary with
  | error e =>
    obtain ⟨d, named⟩ := PacketError.asMessageError_eq e
    exact ⟨d, by simp [Except.mapError, named, bind, Except.bind]⟩
  | ok _ =>
    obtain ⟨d, stopped⟩ := foldlM_gather_unprotected unprotected ({}, none)
    exact ⟨d, by simp [Except.mapError, stopped, bind, Except.bind]⟩

/-- A split message carries the first protected data packet of its stream. -/
theorem parse_body {binary : ByteArray} {m : ParsedMessage} (parsed : ParsedMessage.parse binary = .ok m) :
    firstProtected binary = some m.body := by
  rw [parse_eq] at parsed
  cases framing : Header.checkFraming binary with
  | error e => simp [framing, Except.mapError, bind, Except.bind] at parsed
  | ok _ =>
    cases split : (Packet.readAll binary).foldlM gather ({}, none) with
    | error e => simp [framing, split, Except.mapError, bind, Except.bind] at parsed
    | ok acc =>
      obtain ⟨keys, body⟩ := acc
      have found := foldlM_gather_body split
      cases body with
      | none => simp [framing, split, Except.mapError, bind, Except.bind, throw, throwThe, MonadExceptOf.throw] at parsed
      | some b =>
        simp only [framing, split, Except.mapError, bind, Except.bind, pure, Except.pure,
          Except.ok.injEq] at parsed
        subst parsed
        simpa [firstProtected] using found.symm

end ParsedMessage

/-! ## Opening the protected packet -/

namespace Protected

/-- The clear text of protected data under a session key: CFB decryption from a zero vector. -/
def clear (p : Protected) (s : SessionKey) : ByteArray :=
  Aes.cfbDecrypt (Aes.expand s.key) (Bytes.replicate 16 0) p.data

/-- Whether a session key passes the quick check: the first block and two bytes, decrypted,
show the block's last two bytes repeated. -/
def quickCheck (p : Protected) (s : SessionKey) : Bool :=
  let head := Aes.cfbDecrypt (Aes.expand s.key) (Bytes.replicate 16 0) (p.data.extract 0 19)
  Bytes.equal (head.extract 14 16) (head.extract 16 18)

/-- Whether the modification detection code verifies: the clear text ends in the code's header
and the SHA-1 digest of everything before the digest. -/
def mdcVerifies (p : Protected) (s : SessionKey) : Bool :=
  let plain := p.clear s
  Bytes.equal (plain.extract (plain.size - 22) (plain.size - 20)) mdcHeader &&
    Bytes.equal (Sha1.hash (plain.extract 0 (plain.size - 20))) (plain.extract (plain.size - 20) plain.size)

/-- The inner packets: the clear text between the random prefix and the code. -/
def inner (p : Protected) (s : SessionKey) : ByteArray :=
  (p.clear s).extract 18 ((p.clear s).size - 22)

end Protected

/-- Protected data opens exactly when it is of version one and long enough, the session key
passes the quick check and the modification detection code verifies; what it opens to is its
inner packets. -/
theorem decryptProtected_eq_ok {s : SessionKey} {p : Protected} {wrongKey : EngineError} {inner : ByteArray} :
    decryptProtected s p wrongKey = .ok inner ↔
      p.version = 1 ∧ 40 ≤ p.data.size ∧ p.quickCheck s ∧ p.mdcVerifies s ∧ p.inner s = inner := by
  unfold decryptProtected Protected.quickCheck Protected.mdcVerifies Protected.inner Protected.clear
  simp only [bind, Except.bind, pure, Except.pure, throw, throwThe, MonadExceptOf.throw]
  -- name the decrypted bytes and the three tests, so that only the guards are left to split
  generalize Aes.cfbDecrypt (Aes.expand s.key) (Bytes.replicate 16 0) p.data = plain
  generalize Aes.cfbDecrypt (Aes.expand s.key) (Bytes.replicate 16 0) (p.data.extract 0 19) = head
  generalize Bytes.equal (head.extract 14 16) (head.extract 16 18) = quick
  generalize Bytes.equal (plain.extract (plain.size - 22) (plain.size - 20)) mdcHeader = header
  generalize Bytes.equal (Sha1.hash (plain.extract 0 (plain.size - 20)))
    (plain.extract (plain.size - 20) plain.size) = digest
  have forty : (16 + 2 + 22 : Nat) = 40 := rfl
  rw [forty]
  split_ifs <;> cases header <;> cases digest <;> simp_all

namespace Protected

/-- Protected data opens under a session key to content: it is of version one and long
enough, the key passes the quick check, the code verifies, and the inner packets read as the
content. -/
def OpensTo (p : Protected) (s : SessionKey) (c : LiteralContent) : Prop :=
  p.version = 1 ∧ 40 ≤ p.data.size ∧ p.quickCheck s ∧ p.mdcVerifies s ∧ readContent (p.inner s) = .ok c

/-- Content read from protected data was opened as `OpensTo` says. -/
theorem opensTo_of_read {s : SessionKey} {p : Protected} {wrongKey : EngineError} {c : LiteralContent}
    (read : (decryptProtected s p wrongKey >>= readContent) = .ok c) : p.OpensTo s c := by
  obtain ⟨inner, opened, content⟩ := Outcome.bind_eq_ok read
  obtain ⟨version, long, quick, verifies, rfl⟩ := decryptProtected_eq_ok.mp opened
  exact ⟨version, long, quick, verifies, content⟩

end Protected

/-- Content read from the first protected packet of a binary message. -/
def ProtectedContent (binary : ByteArray) (c : LiteralContent) : Prop :=
  ∃ p s, firstProtected binary = some p ∧ p.OpensTo s c

namespace ParsedMessage

variable {m : ParsedMessage} {c : LiteralContent}

theorem decryptWithKeys_opens {ring : KeyRing} {passphrase : Option String}
    (read : m.decryptWithKeys ring passphrase = .ok c) : ∃ s, m.body.OpensTo s c := by
  obtain ⟨s, -, content⟩ := Outcome.bind_eq_ok read
  exact ⟨s, Protected.opensTo_of_read content⟩

theorem decryptWithPassword_opens {password : String}
    (read : m.decryptWithPassword password = .ok c) : ∃ s, m.body.OpensTo s c := by
  obtain ⟨s, -, content⟩ := Outcome.bind_eq_ok read
  exact ⟨s, Protected.opensTo_of_read content⟩

end ParsedMessage
/-! ## The guarantee of an operation -/

/-- What an operation on a binary message guarantees: with unprotected data in the packet
stream it fails, with a decryption failure or with an error `early` met before the message
is read; and whatever it returns is made, as `made` says, from content of the first
protected packet. -/
structure ReadsOnlyProtected {α : Type} (binary : ByteArray) (early : EngineError → Prop)
    (made : LiteralContent → α → Prop) (result : Outcome α) : Prop where
  refuses : HasUnprotected binary → ∃ e, result = .error e ∧ ((∃ d, e = .decryptionFailed d) ∨ early e)
  reads : ∀ a, result = .ok a → ∃ c, ProtectedContent binary c ∧ made c a

namespace ReadsOnlyProtected

variable {α β : Type} {binary : ByteArray} {early : EngineError → Prop} {made : LiteralContent → α → Prop}

theorem mono {early' : EngineError → Prop} {made' : LiteralContent → α → Prop} {result : Outcome α}
    (base : ReadsOnlyProtected binary early made result) (earlier : ∀ e, early e → early' e)
    (making : ∀ c a, made c a → made' c a) : ReadsOnlyProtected binary early' made' result where
  refuses unprotected := by
    obtain ⟨e, failed, named⟩ := base.refuses unprotected
    exact ⟨e, failed, named.imp_right (earlier e)⟩
  reads a ok := by
    obtain ⟨c, protectedContent, madeOf⟩ := base.reads a ok
    exact ⟨c, protectedContent, making c a madeOf⟩

/-- Reading another input first keeps the guarantee, its failures counting as early. -/
theorem after_input {r : Outcome β} {k : β → Outcome α} (failed : ∀ e, r = .error e → early e)
    (rest : ∀ b, r = .ok b → ReadsOnlyProtected binary early made (k b)) :
    ReadsOnlyProtected binary early made (r >>= k) := by
  cases r with
  | error e =>
    exact ⟨fun _ => ⟨e, rfl, .inr (failed e rfl)⟩, fun a ok => absurd ok (by simp [bind, Except.bind])⟩
  | ok b => exact rest b rfl

/-- An operation that splits the message and opens the protected packet, then makes its
result from the content. -/
theorem parse_open_then {opening : ParsedMessage → Outcome LiteralContent} {k : LiteralContent → Outcome α}
    (opens : ∀ m c, opening m = .ok c → ∃ s, m.body.OpensTo s c)
    (making : ∀ c a, k c = .ok a → made c a) :
    ReadsOnlyProtected binary early made (ParsedMessage.parse binary >>= fun m => opening m >>= k) where
  refuses unprotected := by
    obtain ⟨d, refused⟩ := ParsedMessage.parse_unprotected unprotected
    exact ⟨_, by rw [refused]; rfl, .inl ⟨d, rfl⟩⟩
  reads a ok := by
    obtain ⟨m, parsed, opened⟩ := Outcome.bind_eq_ok ok
    obtain ⟨c, content, madeOf⟩ := Outcome.bind_eq_ok opened
    obtain ⟨s, opensTo⟩ := opens m c content
    exact ⟨c, ⟨m.body, s, ParsedMessage.parse_body parsed, opensTo⟩, making c a madeOf⟩

/-- An operation that splits the message and opens the protected packet returns its content. -/
theorem parse_open {opening : ParsedMessage → Outcome LiteralContent}
    (opens : ∀ m c, opening m = .ok c → ∃ s, m.body.OpensTo s c) :
    ReadsOnlyProtected binary early (fun c c' => c' = c) (ParsedMessage.parse binary >>= opening) := by
  have opened : ReadsOnlyProtected binary early (fun c c' => c' = c)
      (ParsedMessage.parse binary >>= fun m => opening m >>= pure) :=
    parse_open_then opens fun _ _ made => (Except.ok.inj made).symm
  simpa only [bind_pure] using opened

/-- A result made from returned content is made from content of the first protected packet. -/
theorem then_read {r : Outcome LiteralContent} {k : LiteralContent → Outcome α}
    (base : ReadsOnlyProtected binary early (fun c c' => c' = c) r)
    (making : ∀ c a, k c = .ok a → made c a) : ReadsOnlyProtected binary early made (r >>= k) where
  refuses unprotected := by
    obtain ⟨e, failed, named⟩ := base.refuses unprotected
    exact ⟨e, by rw [failed]; rfl, named⟩
  reads a ok := by
    obtain ⟨c', returned, madeOf⟩ := Outcome.bind_eq_ok ok
    obtain ⟨c, protectedContent, same⟩ := base.reads c' returned
    exact ⟨c, protectedContent, same ▸ making c' a madeOf⟩

/-- Armored input is read as the binary message it holds. -/
theorem after_dearmor {input : ByteArray} {k : ByteArray → Outcome α}
    (dearmored : dearmorMessage input = .ok binary) (rest : ReadsOnlyProtected binary early made (k binary)) :
    ReadsOnlyProtected binary early made (dearmorMessage input >>= k) := by
  rw [dearmored]
  exact rest

end ReadsOnlyProtected
/-! ## The decryptor of MIME messages -/

namespace MimeDecryptor

/-- What a decryptor reads from decrypted content: the parts of the MIME document it holds,
and the status of the signatures of its signed part, or else of the content. -/
def readDecrypted (d : MimeDecryptor) (content : LiteralContent) :
    Outcome (Mime.Gathered × VerificationStatus) := do
  let some doc := Mime.parse content.data
    | throw (.mimeParse "decrypted data is not a MIME message")
  let g ← doc.gather
  let status := match g.signature with
    | some c =>
      if c.hasSignature then (c.verify d.verifiers d.verifyTime).status
      else (content.verify d.verifiers d.verifyTime).status
    | none => (content.verify d.verifiers d.verifyTime).status
  return (g, status)

theorem extract_eq (d : MimeDecryptor) (encrypted : ByteArray) :
    d.extract encrypted = (do
      let binary ← dearmorMessage encrypted
      let m ← ParsedMessage.parse binary
      d.readDecrypted (← m.decryptWithKeys d.privateKeys d.passphrase)) := rfl

/-- The events of what a decryptor read: the body it picked, the attachments, the protected
header blocks and the status; or the error alone. -/
def present : Outcome (Mime.Gathered × VerificationStatus) → List MimeEvent
  | .ok (g, status) =>
    let (text, mimeType) := match g.html, g.plain with
      | some h, _ => (h, "text/html")
      | none, some p => (p, "text/plain")
      | none, none => ("", "text/plain")
    [MimeEvent.body text mimeType] ++ g.attachments.toList.map (fun (h, b) => .attachment h b) ++
      g.encryptedHeaders.toList.map .encryptedHeaders ++ [.verified status]
  | .error e => [.error e]

theorem decrypt_eq (d : MimeDecryptor) (encrypted : ByteArray) :
    d.decrypt encrypted = present (d.extract encrypted) := rfl

end MimeDecryptor

/-! ## Every operation returning plaintext -/

section Operations

variable {binary : ByteArray}

open ReadsOnlyProtected

theorem decryptContent_reads {encrypted : ByteArray} (dearmored : dearmorMessage encrypted = .ok binary)
    (keys : ByteArray) (passphrase : String) :
    ReadsOnlyProtected binary (KeyRing.parse keys = .error ·) (fun c c' => c' = c)
      (Engine.decryptContent encrypted keys passphrase) :=
  after_input (fun _ failed => failed) fun _ _ =>
    after_dearmor dearmored (parse_open fun _ _ => ParsedMessage.decryptWithKeys_opens)

theorem decryptMessage_reads {encrypted : String} (dearmored : dearmorMessage encrypted.toUTF8 = .ok binary)
    (keys : ByteArray) (passphrase : String) :
    ReadsOnlyProtected binary (KeyRing.parse keys = .error ·) (fun c text => text = Engine.intoText c.data)
      (Engine.decryptMessage encrypted keys passphrase) :=
  (decryptContent_reads dearmored keys passphrase).then_read fun _ _ ok => (Except.ok.inj ok).symm

theorem decryptMessageWithPassword_reads {encrypted : String}
    (dearmored : dearmorMessage encrypted.toUTF8 = .ok binary) (password : String) :
    ReadsOnlyProtected binary (fun _ => False) (fun c text => text = Engine.intoText c.data)
      (Engine.decryptMessageWithPassword encrypted password) :=
  after_dearmor dearmored (parse_open_then (fun _ _ => ParsedMessage.decryptWithPassword_opens)
    fun _ _ ok => (Except.ok.inj ok).symm)

theorem decryptVerify_reads {encrypted : String} (dearmored : dearmorMessage encrypted.toUTF8 = .ok binary)
    (verifierKey keys : ByteArray) (passphrase : String) (verifyTime : Int) :
    ReadsOnlyProtected binary
      (fun e => Engine.optionalRing verifierKey = .error e ∨ KeyRing.parse keys = .error e)
      (fun c r => ∃ verifiers, Engine.optionalRing verifierKey = .ok verifiers ∧
        r = (Engine.intoText c.data, (c.verify verifiers verifyTime).status))
      (Engine.decryptVerify encrypted verifierKey keys passphrase verifyTime) :=
  after_input (fun _ failed => .inl failed) fun verifiers found =>
    ((decryptContent_reads dearmored keys passphrase).mono (fun _ => .inr) fun _ _ => id).then_read
      fun _ _ ok => ⟨verifiers, found, (Except.ok.inj ok).symm⟩

theorem decryptAttachment_reads (keyPacket dataPacket keys : ByteArray) (passphrase : String) :
    ReadsOnlyProtected (keyPacket ++ dataPacket) (KeyRing.parse keys = .error ·) (fun c data => data = c.data)
      (Engine.decryptAttachment keyPacket dataPacket keys passphrase) :=
  after_input (fun _ failed => failed) fun _ _ =>
    parse_open_then (fun _ _ => ParsedMessage.decryptWithKeys_opens) fun _ _ ok => (Except.ok.inj ok).symm

theorem decryptSplitWithPassword_reads (keyPacket dataPacket : ByteArray) (password : String) :
    ReadsOnlyProtected (keyPacket ++ dataPacket) (fun _ => False) (fun c data => data = c.data)
      (decryptSplitWithPassword keyPacket dataPacket password) :=
  parse_open_then (fun _ _ => ParsedMessage.decryptWithPassword_opens) fun _ _ ok => (Except.ok.inj ok).symm

theorem MimeDecryptor.extract_reads {encrypted : ByteArray} (dearmored : dearmorMessage encrypted = .ok binary)
    (d : MimeDecryptor) :
    ReadsOnlyProtected binary (fun _ => False) (fun c r => d.readDecrypted c = .ok r) (d.extract encrypted) := by
  rw [MimeDecryptor.extract_eq]
  exact after_dearmor dearmored (parse_open_then (fun _ _ => ParsedMessage.decryptWithKeys_opens) fun _ _ => id)

/-- The keys of MIME decryption fail to read only with the error of the private keys or of
the verifying keys. -/
theorem mimeRings_error {keys verifierKey : ByteArray} {e : EngineError}
    (failed : (do
      let keys ← KeyRing.parse keys
      let verifiers ← Engine.optionalRing verifierKey
      pure (keys, verifiers) : Outcome (KeyRing × Option KeyRing)) = .error e) :
    KeyRing.parse keys = .error e ∨ Engine.optionalRing verifierKey = .error e := by
  rcases Outcome.bind_eq_error failed with first | ⟨_, -, later⟩
  · exact .inl first
  · rcases Outcome.bind_eq_error later with second | ⟨_, -, never⟩
    · exact .inr second
    · exact absurd never (by simp [pure, Except.pure])

theorem decryptMimeMessage_reads {encrypted : String} (dearmored : dearmorMessage encrypted.toUTF8 = .ok binary)
    (verifierKey keys : ByteArray) (passphrase : String) (verifyTime : Int) :
    ∃ result, Engine.decryptMimeMessage encrypted verifierKey keys passphrase verifyTime =
        MimeDecryptor.present result ∧
      ReadsOnlyProtected binary
        (fun e => KeyRing.parse keys = .error e ∨ Engine.optionalRing verifierKey = .error e)
        (fun c r => ∃ d : MimeDecryptor, d.readDecrypted c = .ok r) result := by
  unfold Engine.decryptMimeMessage
  dsimp only
  split
  · next e failed =>
    exact ⟨.error e, rfl, fun _ => ⟨e, rfl, .inr (mimeRings_error failed)⟩,
      fun _ ok => absurd ok (by simp)⟩
  · next =>
    exact ⟨_, MimeDecryptor.decrypt_eq _ _,
      (MimeDecryptor.extract_reads dearmored _).mono (fun _ => False.elim) fun _ _ read => ⟨_, read⟩⟩

end Operations
/-! ## Plaintext comes only from the protected packet -/

/-- Whatever the inputs, every operation returning plaintext reads it from the first
protected packet of the binary message, through a session key that passed the quick check
and a modification detection code that verified; and with unprotected data anywhere in the
stream each of them fails, with a decryption failure or, when reading its keys fails first,
with that error. -/
theorem plaintext_only_from_protected_packet {encrypted : String} {binary : ByteArray}
    (dearmored : dearmorMessage encrypted.toUTF8 = .ok binary)
    (keyPacket dataPacket keys verifierKey : ByteArray) (passphrase password : String) (verifyTime : Int) :
    ReadsOnlyProtected binary (KeyRing.parse keys = .error ·) (fun c text => text = Engine.intoText c.data)
        (Engine.decryptMessage encrypted keys passphrase) ∧
      ReadsOnlyProtected binary (fun _ => False) (fun c text => text = Engine.intoText c.data)
        (Engine.decryptMessageWithPassword encrypted password) ∧
      ReadsOnlyProtected binary
        (fun e => Engine.optionalRing verifierKey = .error e ∨ KeyRing.parse keys = .error e)
        (fun c r => ∃ verifiers, Engine.optionalRing verifierKey = .ok verifiers ∧
          r = (Engine.intoText c.data, (c.verify verifiers verifyTime).status))
        (Engine.decryptVerify encrypted verifierKey keys passphrase verifyTime) ∧
      ReadsOnlyProtected (keyPacket ++ dataPacket) (KeyRing.parse keys = .error ·) (fun c data => data = c.data)
        (Engine.decryptAttachment keyPacket dataPacket keys passphrase) ∧
      ReadsOnlyProtected (keyPacket ++ dataPacket) (fun _ => False) (fun c data => data = c.data)
        (decryptSplitWithPassword keyPacket dataPacket password) ∧
      ∃ result, Engine.decryptMimeMessage encrypted verifierKey keys passphrase verifyTime =
          MimeDecryptor.present result ∧
        ReadsOnlyProtected binary
          (fun e => KeyRing.parse keys = .error e ∨ Engine.optionalRing verifierKey = .error e)
          (fun c r => ∃ d : MimeDecryptor, d.readDecrypted c = .ok r) result :=
  ⟨decryptMessage_reads dearmored keys passphrase,
    decryptMessageWithPassword_reads dearmored password,
    decryptVerify_reads dearmored verifierKey keys passphrase verifyTime,
    decryptAttachment_reads keyPacket dataPacket keys passphrase,
    decryptSplitWithPassword_reads keyPacket dataPacket password,
    decryptMimeMessage_reads dearmored verifierKey keys passphrase verifyTime⟩

/-- The empty text is read as the empty binary message, and its password decryption keeps
the guarantee. -/
theorem empty_message_reads_only_protected :
    dearmorMessage "".toUTF8 = .ok ByteArray.empty ∧
      ReadsOnlyProtected ByteArray.empty (fun _ => False) (fun c text => text = Engine.intoText c.data)
        (Engine.decryptMessageWithPassword "" "pw") :=
  have dearmored : dearmorMessage "".toUTF8 = .ok ByteArray.empty := rfl
  ⟨dearmored, (plaintext_only_from_protected_packet dearmored .empty .empty .empty .empty "" "pw" 0).2.1⟩

/-- A message of one data packet without integrity protection, not armored: the new-format
header of tag 9 and the length 128 are the two bytes of the character U+0240, and 128 bytes
of data follow. -/
def unprotectedMessage : String := "\u0240" ++ "".pushn 'a' 128

set_option maxRecDepth 10000 in
/-- The keys are read before the message: with an empty key input, decrypting a message of
unprotected data fails on the keys and not as a decryption failure. -/
theorem key_error_precedes_unprotected_data :
    dearmorMessage unprotectedMessage.toUTF8 = .ok unprotectedMessage.toUTF8 ∧
      HasUnprotected unprotectedMessage.toUTF8 ∧
      Engine.decryptMessage unprotectedMessage "".toUTF8 "pw" = .error (.keyParse "no keys found") := by
  have plain : Armor.isArmored unprotectedMessage.toUTF8 = false := by decide
  refine ⟨?_, by unfold HasUnprotected; decide, by decide⟩
  unfold dearmorMessage
  rw [plain]
  rfl

end SealedMail
