import Mathlib
import SealedMail.Message.Attachment
import SealedMail.Proofs.OutputSizes
import SealedMail.Proofs.CipherFeedback
import SealedMail.Proofs.Framing

/-! # Finishing an attachment

Sealing data without a signer fails only on the four-byte length limit of packets: the literal
packet and the integrity-protected packet around it must both fit, and the second is 47 bytes
longer than the body of the first once that body is long (`sealData_unsigned_fails_iff`).

`finish` hands the buffered data over before it seals it. So a processor that is not finished
fails to finish exactly when its data comes that close to the limit, and it is then left in its
stage, with its session and key packets but without its data (`finish_cases`); what a later
finish seals is what was fed after the failure (`buffer_after_failed_finish`).
-/

namespace SealedMail

/-! ## Sealing -/

/-- The body of a literal packet: two octets, at most 255 bytes of file name, a four-byte date and
the data. -/
theorem Payload.size_literal_body (p : Payload) :
    p.literal.body.size = p.data.size + min p.fileName.toUTF8.size 255 + 6 := by
  simp [Payload.literal, LiteralPacket.body, ByteArray.size_append, Bytes.u32, ByteArray.size_extract]
  omega

/-- Integrity protection adds 41 bytes: the version octet, 18 bytes of random prefix, and the
modification detection packet. -/
theorem size_protect (s : SessionKey) (inner : ByteArray) (g : Entropy) :
    (protect s inner g).1.size = inner.size + 41 := by
  simp [protect, ByteArray.size_append, Aes.size_cfbEncrypt, Sha1.size_hash, Entropy.size_bytes, mdcHeader,
    ByteArray.size_extract]
  omega

/-- Sealing without a signer: the literal packet, then the protected packet around it. -/
theorem sealData_unsigned (s : SessionKey) (p : Payload) (g : Entropy) :
    sealData s p none g =
      (Header.packetWithin .literalData p.literal.body).mapError PacketError.asEncryptionError >>= fun literal =>
        (Header.packetWithin .symEncryptedProtectedData (protect s literal g).1).mapError PacketError.asEncryptionError
          >>= fun data => pure (data, (protect s literal g).2) := by
  simp only [sealData, pure, Except.pure, bind, Except.bind, ByteArray.empty_append, ByteArray.append_empty]

/-- Sealing without a signer fails exactly when the literal body comes within 47 bytes of the
length limit. -/
theorem sealData_unsigned_fails_iff (s : SessionKey) (p : Payload) (g : Entropy) :
    (∃ e, sealData s p none g = .error e) ↔ Header.maxBodyLength < p.literal.body.size + 47 := by
  have header := Header.size_write_new PacketTag.literalData p.literal.body.size
  have limit : Header.maxBodyLength = 4294967295 := rfl
  rw [sealData_unsigned]
  by_cases long : p.literal.body.size > Header.maxBodyLength
  · -- the literal packet itself is too long
    simp only [Header.packetWithin, if_pos long, Except.mapError, bind, Except.bind]
    exact ⟨fun _ => by omega, fun _ => ⟨_, rfl⟩⟩
  · -- the literal packet fits, and the protected packet is its header and 41 bytes longer
    have wrapped : (protect s (Header.packet .new .literalData p.literal.body) g).1.size =
        (Header.write .new .literalData p.literal.body.size).size + p.literal.body.size + 41 := by
      rw [size_protect, Header.packet, ByteArray.size_append]
    simp only [Header.packetWithin, if_neg long, Except.mapError, bind, Except.bind]
    by_cases tooLong : (protect s (Header.packet .new .literalData p.literal.body) g).1.size > Header.maxBodyLength
    · simp only [if_pos tooLong]
      refine ⟨fun _ => ?_, fun _ => ⟨_, rfl⟩⟩
      rw [wrapped, header] at tooLong
      split_ifs at tooLong <;> omega
    · simp only [if_neg tooLong, pure, Except.pure, reduceCtorEq, exists_false, false_iff, not_lt]
      rw [wrapped, header] at tooLong
      split_ifs at tooLong <;> omega

/-! ## The processor -/

namespace AttachmentProcessor

/-- What finishing does. A finished processor is left as it is and refuses. Any other hands its
buffer over and seals it: that fails exactly when the data, with 53 bytes and the bytes of the
file name, is over the length limit of a packet, and the processor is then left in its stage
without its data; otherwise it is finished and has handed over its key packets too. -/
theorem finish_cases (p : AttachmentProcessor) (g : Entropy) :
    (p.state = .finished ∧ p.finish g = (p, .error finishedError)) ∨
    (p.state ≠ .finished ∧ Header.maxBodyLength < p.bufferedLength + min p.fileName.toUTF8.size 255 + 53 ∧
      ∃ e, p.finish g = ({ p with plaintext := ByteArray.empty }, .error e)) ∨
    (p.state ≠ .finished ∧ p.bufferedLength + min p.fileName.toUTF8.size 255 + 53 ≤ Header.maxBodyLength ∧
      ∃ data g', p.finish g = ({ p with state := .finished, plaintext := ByteArray.empty, keyPacket := ByteArray.empty },
        .ok (⟨p.keyPacket, data⟩, g'))) := by
  by_cases done : p.state = .finished
  · exact .inl ⟨done, by simp [finish, done]⟩
  have unfinished : (p.state == .finished) = false := by simpa using done
  have fails := sealData_unsigned_fails_iff p.session
    { data := p.plaintext, format := .binary, fileName := p.fileName, date := p.date } g
  rw [Payload.size_literal_body] at fails
  dsimp only at fails
  cases sealed : sealData p.session { data := p.plaintext, format := .binary, fileName := p.fileName, date := p.date }
      none g with
  | error e =>
    -- sealing failed, after the buffer was handed over
    have big := fails.mp ⟨e, sealed⟩
    refine .inr (.inl ⟨done, by unfold bufferedLength; omega, e, ?_⟩)
    simp [finish, unfinished, sealed]
  | ok sealedData =>
    obtain ⟨data, g'⟩ := sealedData
    refine .inr (.inr ⟨done, ?_, data, g', by simp [finish, unfinished, sealed]⟩)
    by_contra big
    obtain ⟨e, failed⟩ := fails.mpr (by unfold bufferedLength at big; omega)
    rw [sealed] at failed
    cases failed

/-- Feeding chunks to a processor that is not finished appends them to its buffer and keeps it
unfinished. -/
theorem feed_chunks (q : AttachmentProcessor) (unfinished : q.state ≠ .finished) (chunks : List ByteArray) :
    ∃ q', chunks.foldlM process q = .ok q' ∧ q'.state ≠ .finished ∧ q'.plaintext = q.plaintext ++ Bytes.concat chunks := by
  induction chunks generalizing q with
  | nil => exact ⟨q, rfl, unfinished, by simp [ByteArray.append_empty]⟩
  | cons c cs ih =>
    -- one chunk moves the processor to processing with the chunk appended
    have step : q.process c = .ok { q with state := .processing, plaintext := q.plaintext ++ c } := by
      simp [process, unfinished]
    obtain ⟨q', run, still, buffer⟩ := ih { q with state := .processing, plaintext := q.plaintext ++ c } (by simp)
    refine ⟨q', by rw [List.foldlM_cons, step]; exact run, still, ?_⟩
    rw [buffer, Bytes.concat_cons, ByteArray.append_assoc]

/-- After a failed finish of a processor that was not finished, the buffer holds exactly the
chunks fed afterwards: what was fed before the failure is gone. -/
theorem buffer_after_failed_finish (p : AttachmentProcessor) (g : Entropy) (e : EngineError)
    (failed : p.finish g = ({ p with plaintext := ByteArray.empty }, .error e)) (unfinished : p.state ≠ .finished)
    (chunks : List ByteArray) :
    ∃ q, chunks.foldlM process (p.finish g).1 = .ok q ∧ q.state ≠ .finished ∧ q.plaintext = Bytes.concat chunks := by
  obtain ⟨q, run, still, buffer⟩ := feed_chunks { p with plaintext := ByteArray.empty } unfinished chunks
  exact ⟨q, by rw [failed]; exact run, still, by rw [buffer, ByteArray.empty_append]⟩

end AttachmentProcessor

end SealedMail
