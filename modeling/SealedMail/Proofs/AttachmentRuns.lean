import Mathlib
import SealedMail.Engine.Attachment
import SealedMail.Proofs.AttachmentFinish
import SealedMail.Proofs.SealedData
import SealedMail.Proofs.KeySessions
import SealedMail.Proofs.SampleKey

/-! # Attachment processors over whole runs

A processor is driven by a sequence of calls: chunks to feed and finishes to make, each finish
with the entropy it seals with (`AttachmentProcessor.run`). A call either moves the processor one
step or is refused, and a refused chunk leaves the processor as it was.

Feeding appends each chunk to the buffer and moves a processor that is not finished to processing
(`run_processes`). A finish whose data fits a packet seals the buffer into the data packet of the
split it answers, and finishes the processor (`call_finish`). A finished processor refuses every
call and stays as it is (`run_of_finished`).

A split decrypts to the data it seals wherever the processor's key packets open data sealed under
its session key (`AttachmentProcessor.OpensWith`). Processors made for recipients open with the
recipients' private keys (`opensWith_create`); processors made with a password open with the
password (`opensWith_withPassword`). So every run of a fresh processor follows one lifecycle
(`AttachmentProcessor.Lifecycle`), and its split decrypts to the chunks joined, however the data
was cut.
-/

namespace SealedMail

/-! ## Split messages that decrypt -/

/-- Protected data that opens under a session key opens whatever error a wrong key would give. -/
theorem decryptProtected_wrongKey {s : SessionKey} {p : Protected} {wrongKey : EngineError} {inner : ByteArray}
    (opened : decryptProtected s p wrongKey = .ok inner) (other : EngineError) :
    decryptProtected s p other = .ok inner :=
  decryptProtected_eq_ok.mpr (decryptProtected_eq_ok.mp opened)

/-- A split of public-key packets that read back and open with a ring to a session key, and of a
data packet that reads back and opens under that key, decrypts with the ring to the data read. -/
theorem decryptSplitWithKeys_of_opens {ps : List PublicKeySessionPacket} {ring : KeyRing}
    {passphrase : Option String} {s : SessionKey} (back : ∀ p ∈ ps, (Packet.publicKeySession p).ReadsBack)
    (opened : openWithRing ps ring passphrase = .ok s) {v : Nat} {d : ByteArray}
    (dataBack : (Packet.protectedData v d).ReadsBack) {wrongKey : EngineError} {c : LiteralContent}
    (opens : (decryptProtected s ⟨v, d⟩ wrongKey >>= readContent) = .ok c) :
    decryptSplitWithKeys (KeyPackets.write { publicKey := ps }) (Packet.writeNew (.protectedData v d)) ring
      passphrase = .ok c.data := by
  cases inner : decryptProtected s ⟨v, d⟩ wrongKey with
  | error e => simp [inner, bind, Except.bind] at opens
  | ok bytes =>
    rw [inner] at opens
    rw [decryptSplitWithKeys, ParsedMessage.parse_written { publicKey := ps } v d back
      (fun _ mem => absurd mem List.not_mem_nil) dataBack]
    simp only [ParsedMessage.decryptWithKeys, ParsedMessage.decryptWithSession, opened,
      decryptProtected_wrongKey inner, bind, Except.bind] at opens ⊢
    rw [opens]
    rfl

/-- The password packet of a session key of the right length, with a data packet that reads back
and opens under that key, decrypts with the password to the data read. -/
theorem decryptSplitWithPassword_of_opens {s : SessionKey} (sized : s.Sized) (password : String)
    (hash : HashAlgorithm) (count : UInt8) (g : Entropy) {v : Nat} {d : ByteArray}
    (dataBack : (Packet.protectedData v d).ReadsBack) {wrongKey : EngineError} {c : LiteralContent}
    (opens : (decryptProtected s ⟨v, d⟩ wrongKey >>= readContent) = .ok c) :
    decryptSplitWithPassword (passwordPacketFor s password hash count g).1 (Packet.writeNew (.protectedData v d))
      password = .ok c.data := by
  have parsed := ParsedMessage.parse_written { password := [(sealWithPassword s password hash count g).1] } v d
    (fun _ mem => absurd mem List.not_mem_nil)
    (fun _ mem => by rw [List.mem_singleton.mp mem]; exact sealWithPassword_readsBack sized) dataBack
  have sealedOpens : openPassword (sealWithPassword s password hash count g).1 password = .ok s :=
    openPassword_sealWithPassword sized
  have opened := openWithPassword_cons [] sealedOpens
  cases inner : decryptProtected s ⟨v, d⟩ wrongKey with
  | error e => simp [inner, bind, Except.bind] at opens
  | ok bytes =>
    rw [inner] at opens
    rw [decryptSplitWithPassword, passwordPacketFor, parsed]
    simp only [ParsedMessage.decryptWithPassword, opened, decryptProtected_wrongKey inner, bind, Except.bind] at opens ⊢
    rw [opens]
    rfl

/-- A split whose key part is public-key packets that read back and open with a ring to a session
key, and whose data part is sealed under that key, decrypts with the ring to the sealed data. -/
theorem decryptSplitWithKeys_sealed {ps : List PublicKeySessionPacket} {ring : KeyRing}
    {passphrase : Option String} {s : SessionKey} (back : ∀ p ∈ ps, (Packet.publicKeySession p).ReadsBack)
    (opened : openWithRing ps ring passphrase = .ok s) {payload : Payload} (g : Entropy)
    (fits : payload.literal.body.size + 47 ≤ Header.maxBodyLength) :
    decryptSplitWithKeys (KeyPackets.write { publicKey := ps }) (Packet.writeNew (sealedPacket s payload g)) ring
      passphrase = .ok payload.data :=
  decryptSplitWithKeys_of_opens back opened (sealedPacket_readsBack s payload g fits)
    (sealedPacket_opens s payload g .wrongPassword fits)

/-- A split whose key part is the password packet of a session key and whose data part is sealed
under that key decrypts with the password to the sealed data. -/
theorem decryptSplitWithPassword_sealed {s : SessionKey} (sized : s.Sized) (password : String)
    (hash : HashAlgorithm) (count : UInt8) (g₀ : Entropy) {payload : Payload} (g : Entropy)
    (fits : payload.literal.body.size + 47 ≤ Header.maxBodyLength) :
    decryptSplitWithPassword (passwordPacketFor s password hash count g₀).1
      (Packet.writeNew (sealedPacket s payload g)) password = .ok payload.data :=
  decryptSplitWithPassword_of_opens sized password hash count g₀ (sealedPacket_readsBack s payload g fits)
    (sealedPacket_opens s payload g .wrongPassword fits)

/-! ## Calls and runs -/

/-- A call on an attachment processor: a chunk to feed, or a finish with the entropy it seals with. -/
inductive ProcessorCall where
  | process (chunk : ByteArray)
  | finish (g : Entropy)

namespace AttachmentProcessor

/-- One call: the processor afterwards and the answer, nothing for an accepted chunk and the split
for a finish. A refused chunk leaves the processor as it was. -/
def call (p : AttachmentProcessor) : ProcessorCall → AttachmentProcessor × Outcome (Option EncryptedSplit)
  | .process chunk =>
    match p.process chunk with
    | .ok p' => (p', .ok none)
    | .error e => (p, .error e)
  | .finish g =>
    match p.finish g with
    | (p', .ok (split, _)) => (p', .ok (some split))
    | (p', .error e) => (p', .error e)

/-- A sequence of calls: the processor at the end and the answers, in order. -/
def run (p : AttachmentProcessor) : List ProcessorCall → AttachmentProcessor × List (Outcome (Option EncryptedSplit))
  | [] => (p, [])
  | c :: cs =>
    let (p', answer) := p.call c
    let (q, answers) := p'.run cs
    (q, answer :: answers)

/-- The payload a finish seals: the buffer as binary data, with the file name and the date. -/
def payload (p : AttachmentProcessor) : Payload :=
  { data := p.plaintext, format := .binary, fileName := p.fileName, date := p.date }

/-- The processor after chunks are fed: processing once any chunk is fed, with the chunks appended. -/
def fed (p : AttachmentProcessor) (chunks : List ByteArray) : AttachmentProcessor :=
  { p with state := if chunks = [] then p.state else .processing, plaintext := p.plaintext ++ Bytes.concat chunks }

variable {p : AttachmentProcessor}

/-! ### One call -/

theorem call_process (unfinished : p.state ≠ .finished) (chunk : ByteArray) :
    p.call (.process chunk) = ({ p with state := .processing, plaintext := p.plaintext ++ chunk }, .ok none) := by
  simp [call, process, unfinished]

theorem call_of_finished (finished : p.state = .finished) (c : ProcessorCall) :
    p.call c = (p, .error finishedError) := by
  cases c <;> simp [call, process, finish, finished]

/-- A finish whose data fits a packet answers the key packets with the sealed payload, and leaves
the processor finished with its buffer and key packets handed over. -/
theorem finish_eq (unfinished : p.state ≠ .finished)
    (fits : p.bufferedLength + min p.fileName.toUTF8.size 255 + 53 ≤ Header.maxBodyLength) (g : Entropy) :
    p.finish g = ({ p with state := .finished, plaintext := ByteArray.empty, keyPacket := ByteArray.empty },
      .ok (⟨p.keyPacket, Packet.writeNew (sealedPacket p.session p.payload g)⟩, (g.bytes 16).2)) := by
  have body := Payload.size_literal_body p.payload
  have sealed := sealData_none_eq p.session p.payload g (by rw [body]; unfold bufferedLength at fits; exact fits)
  simp only [finish, payload] at sealed ⊢
  simp [unfinished, sealed]

theorem call_finish (unfinished : p.state ≠ .finished)
    (fits : p.bufferedLength + min p.fileName.toUTF8.size 255 + 53 ≤ Header.maxBodyLength) (g : Entropy) :
    p.call (.finish g) = ({ p with state := .finished, plaintext := ByteArray.empty, keyPacket := ByteArray.empty },
      .ok (some ⟨p.keyPacket, Packet.writeNew (sealedPacket p.session p.payload g)⟩)) := by
  simp only [call, finish_eq unfinished fits g]

/-! ### Runs -/

theorem run_cons (p : AttachmentProcessor) (c : ProcessorCall) (cs : List ProcessorCall) :
    p.run (c :: cs) = (((p.call c).1.run cs).1, (p.call c).2 :: ((p.call c).1.run cs).2) := rfl

theorem run_append (p : AttachmentProcessor) (xs ys : List ProcessorCall) :
    p.run (xs ++ ys) = (((p.run xs).1.run ys).1, (p.run xs).2 ++ ((p.run xs).1.run ys).2) := by
  induction xs generalizing p with
  | nil => rfl
  | cons c cs ih => rw [List.cons_append, run_cons, ih, run_cons]; rfl

/-- A finished processor refuses every call and stays as it is. -/
theorem run_of_finished (finished : p.state = .finished) (cs : List ProcessorCall) :
    p.run cs = (p, cs.map fun _ => .error finishedError) := by
  induction cs with
  | nil => rfl
  | cons c cs ih => rw [run_cons, call_of_finished finished, ih]; rfl

theorem fed_nil (p : AttachmentProcessor) : p.fed [] = p := by
  simp [fed, ByteArray.append_empty]

theorem fed_cons (p : AttachmentProcessor) (c : ByteArray) (cs : List ByteArray) :
    p.fed (c :: cs) = { p with state := .processing, plaintext := p.plaintext ++ c }.fed cs := by
  simp only [fed, Bytes.concat_cons, ByteArray.append_assoc, reduceCtorEq, if_false, ite_self]

/-- Feeding chunks to a processor that is not finished accepts each of them. -/
theorem run_processes (unfinished : p.state ≠ .finished) (chunks : List ByteArray) :
    p.run (chunks.map .process) = (p.fed chunks, chunks.map fun _ => .ok none) := by
  induction chunks generalizing p with
  | nil => rw [fed_nil]; rfl
  | cons c cs ih =>
    rw [List.map_cons, run_cons, call_process unfinished, ih (by simp), fed_cons]
    rfl

/-! ## The lifecycle of a fresh processor -/

/-- The splits of a processor decrypt to what they seal: its key packets, with any data packet
sealed under its session key around a literal body that fits a packet, give back the sealed data. -/
def OpensWith (p : AttachmentProcessor) (decrypt : ByteArray → ByteArray → Outcome ByteArray) : Prop :=
  ∀ (payload : Payload) (g : Entropy), payload.literal.body.size + 47 ≤ Header.maxBodyLength →
    decrypt p.keyPacket (Packet.writeNew (sealedPacket p.session payload g)) = .ok payload.data

/-- What every run of a processor shows, for a decryption of its splits. Chunks fed one after
another are each accepted; the processor is created until the first and processing after it, and
buffers their total length. The first finish, when the data fits a packet, answers a split that
decrypts to the chunks joined and finishes the processor; every later call is refused with the
error of a finished processor and changes nothing. -/
structure Lifecycle (p : AttachmentProcessor) (decrypt : ByteArray → ByteArray → Outcome ByteArray) : Prop where
  accepted : ∀ chunks : List ByteArray, (p.run (chunks.map .process)).2 = chunks.map fun _ => .ok none
  staged : ∀ chunks : List ByteArray,
    (p.run (chunks.map .process)).1.state = (if chunks = [] then .created else .processing) ∧
      (p.run (chunks.map .process)).1.bufferedLength = (Bytes.concat chunks).size
  finishing : ∀ (chunks : List ByteArray) (g : Entropy) (rest : List ProcessorCall),
    (Bytes.concat chunks).size + min p.fileName.toUTF8.size 255 + 53 ≤ Header.maxBodyLength →
    ∃ split : EncryptedSplit,
      (p.run (chunks.map .process ++ .finish g :: rest)).2 =
          (chunks.map fun _ => .ok none) ++ .ok (some split) :: rest.map (fun _ => .error finishedError) ∧
        decrypt split.keyPacket split.dataPacket = .ok (Bytes.concat chunks) ∧
        (p.run (chunks.map .process ++ [.finish g])).1.state = .finished ∧
        (p.run (chunks.map .process ++ .finish g :: rest)).1 = (p.run (chunks.map .process ++ [.finish g])).1

/-- A fresh processor whose splits open with a decryption follows the lifecycle under it. -/
theorem lifecycle_of_opensWith {decrypt : ByteArray → ByteArray → Outcome ByteArray}
    (created : p.state = .created) (empty : p.plaintext = ByteArray.empty) (opens : p.OpensWith decrypt) :
    p.Lifecycle decrypt := by
  have unfinished : p.state ≠ .finished := by rw [created]; decide
  -- fed chunks leave the processor unfinished, with the chunks as its buffer
  have fedUnfinished : ∀ chunks, (p.fed chunks).state ≠ .finished := by
    intro chunks
    simp only [fed]
    split <;> simp [created]
  have buffer : ∀ chunks, (p.fed chunks).plaintext = Bytes.concat chunks := by
    intro chunks
    simp only [fed, empty, ByteArray.empty_append]
  refine ⟨fun chunks => by rw [run_processes unfinished], fun chunks => ?_, fun chunks g rest fits => ?_⟩
  · rw [run_processes unfinished]
    exact ⟨by simp only [fed, created], by rw [bufferedLength, buffer]⟩
  · have sameName : (p.fed chunks).fileName = p.fileName := rfl
    have fedFits : (p.fed chunks).bufferedLength + min (p.fed chunks).fileName.toUTF8.size 255 + 53 ≤
        Header.maxBodyLength := by
      rw [bufferedLength, buffer, sameName]
      exact fits
    have finished := call_finish (fedUnfinished chunks) fedFits g
    have sealedFits : (p.fed chunks).payload.literal.body.size + 47 ≤ Header.maxBodyLength := by
      rw [Payload.size_literal_body]
      simp only [payload, buffer, sameName]
      omega
    -- the run up to the finish, and after it whatever follows
    have whole : ∀ rest, p.run (chunks.map .process ++ .finish g :: rest) =
        (((p.fed chunks).call (.finish g)).1, (chunks.map fun _ => .ok none) ++
          ((p.fed chunks).call (.finish g)).2 :: rest.map fun _ => .error finishedError) := by
      intro rest
      rw [run_append, run_processes unfinished, run_cons, finished, run_of_finished rfl]
    have data : (p.fed chunks).payload.data = Bytes.concat chunks := buffer chunks
    have opened := opens (p.fed chunks).payload g sealedFits
    rw [data] at opened
    refine ⟨⟨(p.fed chunks).keyPacket, Packet.writeNew (sealedPacket (p.fed chunks).session (p.fed chunks).payload g)⟩,
      ?_, opened, ?_, ?_⟩
    · rw [whole, finished]
    · rw [whole [], finished]
    · rw [whole, whole]

/-! ## Processors made for recipients or with a password -/

section Recipients

variable {R P : KeyRing} {at_ : Int} {passphrase : String} {estimatedSize : Nat} {fileName : String}
  {config : EngineConfig} {g g' : Entropy}

/-- A processor is made for every ring of recipients that receive session keys. -/
theorem create_succeeds (receives : R.Receives at_) :
    ∃ p g', create estimatedSize fileName R config at_ g = .ok (p, g') := by
  have sized : (SessionKey.mk config.cipher (g.bytes config.cipher.keySize).1).Sized :=
    Entropy.size_bytes g config.cipher.keySize
  obtain ⟨bytes, g₂, sealed⟩ := keyPacketsFor_of_receives receives sized (g.bytes config.cipher.keySize).2
  exact ⟨withKeyPacket ⟨config.cipher, (g.bytes config.cipher.keySize).1⟩ bytes estimatedSize fileName at_, g₂,
    by simp [create, sealed, bind, Except.bind, pure, Except.pure]⟩

/-- A processor made for recipients is fresh and named as asked; its session key has the right
length, and its key packets are the recipients' public-key packets, which read back and open with a
private ring holding their secrets to that session key. -/
theorem create_sealed (receives : R.Receives at_) (holds : P.HoldsSecretsOf R at_ passphrase)
    {p : AttachmentProcessor} (created : create estimatedSize fileName R config at_ g = .ok (p, g')) :
    p.state = .created ∧ p.plaintext = ByteArray.empty ∧ p.fileName = fileName ∧ p.session.Sized ∧
      ∃ ps, p.keyPacket = KeyPackets.write { publicKey := ps } ∧ (∀ q ∈ ps, (Packet.publicKeySession q).ReadsBack) ∧
        openWithRing ps P (some passphrase) = .ok p.session := by
  have sized : (SessionKey.mk config.cipher (g.bytes config.cipher.keySize).1).Sized :=
    Entropy.size_bytes g config.cipher.keySize
  cases sealed : keyPacketsFor ⟨config.cipher, (g.bytes config.cipher.keySize).1⟩ R at_
      (g.bytes config.cipher.keySize).2 with
  | error e => simp [create, sealed, bind, Except.bind] at created
  | ok result =>
    obtain ⟨bytes, g₂⟩ := result
    simp only [create, sealed, bind, Except.bind, pure, Except.pure, Except.ok.injEq, Prod.mk.injEq] at created
    obtain ⟨rfl, -⟩ := created
    obtain ⟨ps, written, back, opened⟩ := keyPacketsFor_opens receives holds sized sealed
    exact ⟨rfl, rfl, rfl, sized, ps, written, back, opened⟩

/-- A processor made for recipients is fresh, and its splits open with a private ring holding the
recipients' secrets. -/
theorem opensWith_create (receives : R.Receives at_) (holds : P.HoldsSecretsOf R at_ passphrase)
    {p : AttachmentProcessor} (created : create estimatedSize fileName R config at_ g = .ok (p, g')) :
    p.state = .created ∧ p.plaintext = ByteArray.empty ∧ p.fileName = fileName ∧
      p.OpensWith fun kp dp => decryptSplitWithKeys kp dp P (some passphrase) := by
  obtain ⟨fresh, empty, named, -, ps, written, back, opened⟩ := create_sealed receives holds created
  refine ⟨fresh, empty, named, fun payload g fits => ?_⟩
  rw [written]
  exact decryptSplitWithKeys_sealed back opened g fits

end Recipients

/-- A processor made with a password is fresh, and its splits open with the password. -/
theorem opensWith_withPassword (estimatedSize : Nat) (fileName password : String) (config : EngineConfig)
    (at_ : Int) (g : Entropy) :
    (withPassword estimatedSize fileName password config at_ g).1.state = .created ∧
      (withPassword estimatedSize fileName password config at_ g).1.plaintext = ByteArray.empty ∧
      (withPassword estimatedSize fileName password config at_ g).1.OpensWith
        fun kp dp => decryptSplitWithPassword kp dp password := by
  have sized : (SessionKey.mk config.cipher (g.bytes config.cipher.keySize).1).Sized :=
    Entropy.size_bytes g config.cipher.keySize
  exact ⟨rfl, rfl, fun payload g' fits => decryptSplitWithPassword_sealed sized password _ _ _ g' fits⟩

end AttachmentProcessor

/-! ## Through the engine -/

namespace Engine

variable {e : Engine} {publicKey privateKeys : ByteArray} {R P : KeyRing} {passphrase : String}

theorem decryptAttachment_eq (privateRing : KeyRing.parse privateKeys = .ok P) (kp dp : ByteArray) :
    decryptAttachment kp dp privateKeys passphrase = decryptSplitWithKeys kp dp P (some passphrase) := by
  simp only [decryptAttachment, privateRing, bind, Except.bind]

/-- Encrypting an attachment at once, for recipients that receive session keys, writes their
public-key packets, which open with a private ring holding their secrets to a session key of the
right length, and the data sealed under that key, when the data fits a packet. -/
theorem encryptAttachment_split (recipients : KeyRing.parse publicKey = .ok R) (receives : R.Receives e.now)
    (holds : P.HoldsSecretsOf R e.now passphrase) (data : ByteArray) (fileName : String) (g : Entropy)
    (fits : data.size + min fileName.toUTF8.size 255 + 53 ≤ Header.maxBodyLength) :
    ∃ (s : SessionKey) (ps : List PublicKeySessionPacket) (payload : Payload) (g₁ g' : Entropy),
      e.encryptAttachment data fileName publicKey g =
        .ok (⟨KeyPackets.write { publicKey := ps }, Packet.writeNew (sealedPacket s payload g₁)⟩, g') ∧
      s.Sized ∧ (∀ q ∈ ps, (Packet.publicKeySession q).ReadsBack) ∧ openWithRing ps P (some passphrase) = .ok s ∧
      payload.data = data ∧ payload.literal.body.size + 47 ≤ Header.maxBodyLength := by
  obtain ⟨p, g₁, created⟩ : ∃ p g', AttachmentProcessor.create data.size fileName R e.config e.now g = .ok (p, g') :=
    AttachmentProcessor.create_succeeds receives
  obtain ⟨fresh, empty, named, sized, ps, written, back, opened⟩ := AttachmentProcessor.create_sealed receives holds
    created
  have unfinished : p.state ≠ .finished := by rw [fresh]; decide
  let q : AttachmentProcessor := { p with state := .processing, plaintext := p.plaintext ++ data }
  have fed : p.process data = .ok q := by simp [AttachmentProcessor.process, unfinished, q]
  have qFits : q.bufferedLength + min q.fileName.toUTF8.size 255 + 53 ≤ Header.maxBodyLength := by
    simp only [AttachmentProcessor.bufferedLength, q, empty, named, ByteArray.empty_append]
    exact fits
  have finished := AttachmentProcessor.finish_eq (p := q) (by simp [q]) qFits g₁
  have sealedFits : q.payload.literal.body.size + 47 ≤ Header.maxBodyLength := by
    rw [Payload.size_literal_body]
    simp only [AttachmentProcessor.payload, q, empty, named, ByteArray.empty_append]
    omega
  refine ⟨p.session, ps, q.payload, g₁, (g₁.bytes 16).2, ?_, sized, back, opened, ?_, sealedFits⟩
  · simp only [encryptAttachment, attachmentProcessor, recipients, created, fed, bind, Except.bind]
    rw [finished]
    simp [written, q, pure, Except.pure]
  · simp only [AttachmentProcessor.payload, q, empty, ByteArray.empty_append]

/-- Encrypting an attachment at once, for recipients that receive session keys, gives a split that
decrypts with a private key input holding their secrets to the data, when the data fits a packet. -/
theorem encryptAttachment_decrypts (recipients : KeyRing.parse publicKey = .ok R) (receives : R.Receives e.now)
    (privateRing : KeyRing.parse privateKeys = .ok P) (holds : P.HoldsSecretsOf R e.now passphrase)
    (data : ByteArray) (fileName : String) (g : Entropy)
    (fits : data.size + min fileName.toUTF8.size 255 + 53 ≤ Header.maxBodyLength) :
    ∃ split g', e.encryptAttachment data fileName publicKey g = .ok (split, g') ∧
      decryptAttachment split.keyPacket split.dataPacket privateKeys passphrase = .ok data := by
  obtain ⟨s, ps, payload, g₁, g', encrypted, -, back, opened, same, sealedFits⟩ :=
    encryptAttachment_split recipients receives holds data fileName g fits
  refine ⟨_, g', encrypted, ?_⟩
  rw [decryptAttachment_eq privateRing, ← same]
  exact decryptSplitWithKeys_sealed back opened g₁ sealedFits

end Engine

/-- Attachment processors made through the engine for recipients that receive session keys, or
made with a password, follow the lifecycle: chunks are accepted and buffered until the first finish,
whose split decrypts, with a private key input holding the recipients' secrets or with the password,
to the chunks joined, and later calls are refused. Encrypting the joined data at once decrypts to it
too. -/
theorem attachment_processor_lifecycle (e : Engine) {publicKey privateKeys : ByteArray} {R P : KeyRing}
    {passphrase : String} (recipients : KeyRing.parse publicKey = .ok R) (receives : R.Receives e.now)
    (privateRing : KeyRing.parse privateKeys = .ok P) (holds : P.HoldsSecretsOf R e.now passphrase)
    (estimatedSize : Nat) (fileName password : String) (g : Entropy) :
    (∃ p g', e.attachmentProcessor estimatedSize fileName publicKey g = .ok (p, g') ∧
      p.Lifecycle fun kp dp => Engine.decryptAttachment kp dp privateKeys passphrase) ∧
    (AttachmentProcessor.withPassword estimatedSize fileName password e.config e.now g).1.Lifecycle
      (fun kp dp => decryptSplitWithPassword kp dp password) ∧
    ∀ data : ByteArray, data.size + min fileName.toUTF8.size 255 + 53 ≤ Header.maxBodyLength →
      ∃ split g', e.encryptAttachment data fileName publicKey g = .ok (split, g') ∧
        Engine.decryptAttachment split.keyPacket split.dataPacket privateKeys passphrase = .ok data := by
  refine ⟨?_, ?_, fun data fits => Engine.encryptAttachment_decrypts recipients receives privateRing holds data
    fileName g fits⟩
  · obtain ⟨p, g', created⟩ :
        ∃ p g', AttachmentProcessor.create estimatedSize fileName R e.config e.now g = .ok (p, g') :=
      AttachmentProcessor.create_succeeds receives
    obtain ⟨fresh, empty, -, opens⟩ := AttachmentProcessor.opensWith_create receives holds created
    refine ⟨p, g', by simp [Engine.attachmentProcessor, recipients, created, bind, Except.bind], ?_⟩
    refine AttachmentProcessor.lifecycle_of_opensWith fresh empty fun payload g fits => ?_
    rw [Engine.decryptAttachment_eq privateRing]
    exact opens payload g fits
  · obtain ⟨fresh, empty, opens⟩ := AttachmentProcessor.opensWith_withPassword estimatedSize fileName password
      e.config e.now g
    exact AttachmentProcessor.lifecycle_of_opensWith fresh empty opens

/-- The sample RSA key as the recipient, armored, and with its secret as the private key input. -/
theorem sampleKey_attachment_lifecycle :
    (∃ p g', ({ now := 0 } : Engine).attachmentProcessor 0 "a.bin" SampleKey.publicText.toUTF8 default = .ok (p, g') ∧
      p.Lifecycle fun kp dp => Engine.decryptAttachment kp dp SampleKey.privateText.toUTF8 "pw") ∧
    (AttachmentProcessor.withPassword 0 "a.bin" "pw" ({ now := 0 } : Engine).config 0 default).1.Lifecycle
      (fun kp dp => decryptSplitWithPassword kp dp "pw") ∧
    ∀ data : ByteArray, data.size + min "a.bin".toUTF8.size 255 + 53 ≤ Header.maxBodyLength →
      ∃ split g', ({ now := 0 } : Engine).encryptAttachment data "a.bin" SampleKey.publicText.toUTF8 default =
          .ok (split, g') ∧
        Engine.decryptAttachment split.keyPacket split.dataPacket SampleKey.privateText.toUTF8 "pw" = .ok data :=
  attachment_processor_lifecycle { now := 0 } SampleKey.parse_publicText (SampleKey.receives 0)
    SampleKey.parse_privateText (SampleKey.holdsSecrets 0 "pw") 0 "a.bin" "pw" default

end SealedMail
