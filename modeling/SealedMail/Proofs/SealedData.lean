import Mathlib
import SealedMail.Proofs.AttachmentFinish
import SealedMail.Proofs.PacketBodies
import SealedMail.Proofs.ProtectedPlaintext
import SealedMail.Proofs.DecryptedContent

/-! # Sealed data opens to its payload

Sealing without a signer writes the payload as a literal packet and encrypts that packet in
CFB mode under the session key, after a random block whose last two bytes are repeated and
before a modification detection code: the SHA-1 digest of everything before it. The result,
behind a version octet, is the body of an integrity-protected data packet.

Opening undoes each layer. CFB decryption inverts CFB encryption for every key, so the
repeated bytes pass the quick check and the code verifies, whatever the random block; the
inner packet is the literal packet, which reads back with the payload's data
(`sealData_opens`). A message whose session key packets and data packet were written one
after the other splits back into exactly those packets (`ParsedMessage.parse_written`).
-/

namespace SealedMail

/-! ## The protected clear text -/

/-- The clear text of integrity-protected data: the random block, its last two bytes again, the
inner packets, the header of the modification detection code and the SHA-1 digest of all that. -/
def protectedClear (rand inner : ByteArray) : ByteArray :=
  rand ++ rand.extract 14 16 ++ inner ++ mdcHeader ++ Sha1.hash (rand ++ rand.extract 14 16 ++ inner ++ mdcHeader)

/-- The encrypted part of the data packet that sealing writes for inner packets. -/
def protectedText (s : SessionKey) (inner : ByteArray) (g : Entropy) : ByteArray :=
  Aes.cfbEncrypt (Aes.expand s.key) (Bytes.replicate 16 0) (protectedClear (g.bytes 16).1 inner)

theorem protect_eq (s : SessionKey) (inner : ByteArray) (g : Entropy) :
    protect s inner g = ((Packet.protectedData 1 (protectedText s inner g)).body, (g.bytes 16).2) := rfl

theorem size_protectedClear (rand inner : ByteArray) (block : rand.size = 16) :
    (protectedClear rand inner).size = inner.size + 40 := by
  simp [protectedClear, ByteArray.size_append, Sha1.size_hash, mdcHeader, block]
  omega

variable {s : SessionKey} {rand : ByteArray} {inner : ByteArray}

/-- The protected data written around inner packets, as the data packet carries it. -/
def sealedProtected (s : SessionKey) (rand inner : ByteArray) : Protected :=
  ⟨1, Aes.cfbEncrypt (Aes.expand s.key) (Bytes.replicate 16 0) (protectedClear rand inner)⟩

theorem clear_sealedProtected : (sealedProtected s rand inner).clear s = protectedClear rand inner :=
  Aes.cfbDecrypt_cfbEncrypt _ _ _

/-- The repeated bytes of the random block pass the quick check. -/
theorem quickCheck_sealedProtected (block : rand.size = 16) : (sealedProtected s rand inner).quickCheck s := by
  have long : 19 ≤ (protectedClear rand inner).size := by rw [size_protectedClear rand inner block]; omega
  unfold Protected.quickCheck
  simp only [sealedProtected]
  rw [Aes.cfbDecrypt_extract _ _ _ (by rw [Aes.size_cfbEncrypt]; exact long), Aes.cfbDecrypt_cfbEncrypt,
    ByteArray.extract_extract, ByteArray.extract_extract]
  -- both windows lie in the random block and its repeated tail
  have front : (protectedClear rand inner).extract 14 16 = rand.extract 14 16 := by
    simp only [protectedClear, ByteArray.append_assoc]
    exact Bytes.extract_append_of_le (by omega)
  have back : (protectedClear rand inner).extract 16 18 = rand.extract 14 16 := by
    simp only [protectedClear, ByteArray.append_assoc]
    rw [show (16 : Nat) = rand.size + 0 by omega, show (18 : Nat) = rand.size + 2 by omega,
      ByteArray.extract_append_size_add, Bytes.extract_append_of_le (by simp [ByteArray.size_extract]; omega)]
    simp [ByteArray.extract_extract, block]
  simp [front, back]

/-- The modification detection code of sealed data verifies. -/
theorem mdcVerifies_sealedProtected : (sealedProtected s rand inner).mdcVerifies s := by
  unfold Protected.mdcVerifies
  dsimp only
  rw [clear_sealedProtected]
  unfold protectedClear
  -- everything before the code's header is one block of bytes, of no matter here
  generalize rand ++ rand.extract 14 16 ++ inner = front
  have two : mdcHeader.size = 2 := rfl
  have size : (front ++ mdcHeader ++ Sha1.hash (front ++ mdcHeader)).size = front.size + 22 := by
    simp [ByteArray.size_append, two, Sha1.size_hash]
  rw [size, ByteArray.append_assoc, show front.size + 22 - 22 = front.size by omega,
    show front.size + 22 - 20 = front.size + mdcHeader.size by omega, Bytes.extract_middle,
    ← ByteArray.append_assoc, ByteArray.extract_append_eq_left (by simp [ByteArray.size_append]),
    ByteArray.extract_append_eq_right (by simp [ByteArray.size_append])
      (by simp [ByteArray.size_append, Sha1.size_hash, two])]
  simp

/-- The inner packets sit between the 18 bytes of random prefix and the 22 bytes of code. -/
theorem inner_sealedProtected (block : rand.size = 16) : (sealedProtected s rand inner).inner s = inner := by
  unfold Protected.inner
  rw [clear_sealedProtected, size_protectedClear rand inner block]
  have prefixSize : (rand ++ rand.extract 14 16).size = 18 := by simp [ByteArray.size_append, block]
  rw [show inner.size + 40 - 22 = (rand ++ rand.extract 14 16).size + inner.size by omega, ← prefixSize]
  unfold protectedClear
  generalize Sha1.hash (rand ++ rand.extract 14 16 ++ inner ++ mdcHeader) = digest
  generalize rand ++ rand.extract 14 16 = pre
  rw [ByteArray.append_assoc, ByteArray.append_assoc]
  exact Bytes.extract_middle pre inner _

/-- Sealed protected data opens to its inner packets under the session key it was sealed
with, whatever the random block. -/
theorem decryptProtected_sealed (block : rand.size = 16) (wrongKey : EngineError) :
    decryptProtected s (sealedProtected s rand inner) wrongKey = .ok inner := by
  rw [decryptProtected_eq_ok]
  refine ⟨rfl, ?_, quickCheck_sealedProtected block, mdcVerifies_sealedProtected, inner_sealedProtected block⟩
  simp only [sealedProtected, Aes.size_cfbEncrypt, size_protectedClear rand inner block]
  omega

/-! ## The literal packet -/

/-- The literal packet of a payload reads back when its body fits a four-byte length. -/
theorem Payload.literal_readsBack (p : Payload) (fits : p.literal.body.size ≤ Header.maxBodyLength) :
    (Packet.literal p.literal).ReadsBack := by
  refine ⟨fits, Packet.read_literal (Cursor.readsLast_literal ?_ ?_ ?_)⟩
  · cases format : p.format <;> simp [Payload.literal, LiteralFormat.octet, format]
  · simp only [Payload.literal, ByteArray.size_extract]
    omega
  · have bound : Int.pow 2 32 = 4294967296 := rfl
    simp only [Payload.literal]
    split <;> rename_i within
    · simp only [Bool.and_eq_true, decide_eq_true_eq, bound] at within
      have : p.date.toNat < 4294967296 := by omega
      exact this
    · exact Nat.pos_of_ne_zero (by decide)

/-- A literal packet that reads back is read as the content, with no signatures. -/
theorem readContent_literal {l : LiteralPacket} (back : (Packet.literal l).ReadsBack) :
    readContent (Packet.writeNew (.literal l)) = .ok (l.content []) :=
  (readContent_wraps_literal (.bare _) back).mpr (Nat.zero_le _)

/-! ## Sealing without a signer -/

/-- The integrity-protected data packet sealing writes around the literal packet of a payload. -/
def sealedPacket (s : SessionKey) (p : Payload) (g : Entropy) : Packet :=
  .protectedData 1 (protectedText s (Packet.writeNew (.literal p.literal)) g)

/-- Unsigned sealing writes the protected packet around the literal packet when the literal body
is at least 47 bytes below the length limit; the header of the literal packet takes at most six
of them and the protection 41. -/
theorem sealData_none_eq (s : SessionKey) (p : Payload) (g : Entropy)
    (fits : p.literal.body.size + 47 ≤ Header.maxBodyLength) :
    sealData s p none g = .ok (Packet.writeNew (sealedPacket s p g), (g.bytes 16).2) := by
  have header := Header.size_write_new PacketTag.literalData p.literal.body.size
  have literalSize : (Packet.writeNew (.literal p.literal)).size ≤ p.literal.body.size + 6 := by
    simp only [Packet.writeNew, Header.packet, ByteArray.size_append, Packet.tag, Packet.body, header]
    split_ifs <;> omega
  have protectedSize : (protect s (Packet.writeNew (.literal p.literal)) g).1.size ≤ Header.maxBodyLength := by
    rw [size_protect]
    omega
  rw [sealData_unsigned]
  simp only [Header.packetWithin, show ¬ p.literal.body.size > Header.maxBodyLength by omega, if_false,
    Except.mapError, bind, Except.bind]
  rw [show Header.packet .new .literalData p.literal.body = Packet.writeNew (.literal p.literal) from rfl,
    if_neg (by omega)]
  rfl

/-- The protected packet sealing writes reads back when its body fits a four-byte length. -/
theorem sealedPacket_readsBack (s : SessionKey) (p : Payload) (g : Entropy)
    (fits : p.literal.body.size + 47 ≤ Header.maxBodyLength) : (sealedPacket s p g).ReadsBack := by
  have header := Header.size_write_new PacketTag.literalData p.literal.body.size
  have literalSize : (Packet.writeNew (.literal p.literal)).size ≤ p.literal.body.size + 6 := by
    simp only [Packet.writeNew, Header.packet, ByteArray.size_append, Packet.tag, Packet.body, header]
    split_ifs <;> omega
  refine ⟨?_, Packet.read_protectedData (by decide) _⟩
  have body := size_protect s (Packet.writeNew (.literal p.literal)) g
  rw [protect_eq] at body
  simp only [sealedPacket, body]
  omega

/-- Sealed data, unsigned, opens under its session key to the payload's literal data: the content
read from it has the payload's bytes. -/
theorem sealedPacket_opens (s : SessionKey) (p : Payload) (g : Entropy) (wrongKey : EngineError)
    (fits : p.literal.body.size + 47 ≤ Header.maxBodyLength) :
    (decryptProtected s ⟨1, protectedText s (Packet.writeNew (.literal p.literal)) g⟩ wrongKey >>= readContent) =
      .ok (p.literal.content []) := by
  have opened : decryptProtected s ⟨1, protectedText s (Packet.writeNew (.literal p.literal)) g⟩ wrongKey =
      .ok (Packet.writeNew (.literal p.literal)) :=
    decryptProtected_sealed (Entropy.size_bytes g 16) wrongKey
  rw [opened]
  simp only [bind, Except.bind]
  exact readContent_literal (p.literal_readsBack (by omega))

theorem Payload.content_data (p : Payload) : (p.literal.content []).data = p.data := rfl

/-! ## Splitting a written message -/

namespace ParsedMessage

theorem foldlM_gather_publicKey (ps : List PublicKeySessionPacket) (acc : KeyPackets × Option Protected) :
    (ps.map (Except.ok ∘ Packet.publicKeySession)).foldlM gather acc =
      .ok ({ acc.1 with publicKey := acc.1.publicKey ++ ps }, acc.2) := by
  induction ps generalizing acc with
  | nil => simp [pure, Except.pure]
  | cons p ps ih =>
    rw [List.map_cons, List.foldlM_cons]
    simp only [Function.comp_apply, gather, bind, Except.bind]
    rw [ih]
    simp

theorem foldlM_gather_password (ps : List PasswordSessionPacket) (acc : KeyPackets × Option Protected) :
    (ps.map (Except.ok ∘ Packet.passwordSession)).foldlM gather acc =
      .ok ({ acc.1 with password := acc.1.password ++ ps }, acc.2) := by
  induction ps generalizing acc with
  | nil => simp [pure, Except.pure]
  | cons p ps ih =>
    rw [List.map_cons, List.foldlM_cons]
    simp only [Function.comp_apply, gather, bind, Except.bind]
    rw [ih]
    simp

/-- A message written as session key packets followed by a data packet splits back into those
session key packets and that data packet, when each of them reads back. -/
theorem parse_written (k : KeyPackets) (v : Nat) (d : ByteArray)
    (publicBack : ∀ p ∈ k.publicKey, (Packet.publicKeySession p).ReadsBack)
    (passwordBack : ∀ p ∈ k.password, (Packet.passwordSession p).ReadsBack)
    (dataBack : (Packet.protectedData v d).ReadsBack) :
    ParsedMessage.parse (KeyPackets.write k ++ Packet.writeNew (.protectedData v d)) = .ok ⟨k, ⟨v, d⟩⟩ := by
  let packets := k.publicKey.map Packet.publicKeySession ++ k.password.map Packet.passwordSession ++
    [.protectedData v d]
  have written : KeyPackets.write k ++ Packet.writeNew (.protectedData v d) = Bytes.concat (packets.map Packet.writeNew) := by
    simp only [packets, KeyPackets.write, List.map_append, List.map_map, Bytes.concat_append, List.map_singleton,
      Bytes.concat_cons, Bytes.concat_nil, ByteArray.append_empty]
    rfl
  have back : ∀ p ∈ packets, p.ReadsBack := by
    intro p mem
    simp only [packets, List.mem_append, List.mem_map, List.mem_singleton] at mem
    rcases mem with (⟨q, mem, rfl⟩ | ⟨q, mem, rfl⟩) | rfl
    · exact publicBack q mem
    · exact passwordBack q mem
    · exact dataBack
  rw [parse_eq, written, Packet.checkFraming_written_back _ back, Packet.readAll_written_back _ back]
  -- the split gathers the public-key packets, then the password packets, then keeps the data
  simp only [packets, List.map_append, List.map_map, List.foldlM_append, foldlM_gather_publicKey,
    foldlM_gather_password, Except.mapError, bind, Except.bind]
  simp [gather, pure, Except.pure, Option.orElse, bind, Except.bind]

end ParsedMessage

end SealedMail
