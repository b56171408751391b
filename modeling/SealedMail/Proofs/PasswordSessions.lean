import Mathlib
import SealedMail.Proofs.SealedData
import SealedMail.Proofs.KeyLocking

/-! # Password session packets open with their password

A password packet names the cipher, an iterated and salted string-to-key specifier and the
session key's cipher octet and bytes, encrypted in CFB mode under the key the specifier derives
from the password. Reading the packet back gives the same specifier, so the same password
derives the same key, CFB decryption inverts the encryption, and the cipher octet and key length
check out: the packet opens to the session key it holds, for every password, hash, count octet and
salt (`openPassword_sealWithPassword`), provided the session key is as long as its cipher's keys.
-/

namespace SealedMail

variable {s : SessionKey} {password : String} {hash : HashAlgorithm} {count : UInt8} {g : Entropy}

/-- A session key whose bytes are as many as its cipher takes. -/
def SessionKey.Sized (s : SessionKey) : Prop := s.key.size = s.algorithm.keySize

@[simp] theorem SymmetricAlgorithm.ofId?_id (a : SymmetricAlgorithm) : SymmetricAlgorithm.ofId? a.id = some a := by
  cases a <;> rfl

theorem SymmetricAlgorithm.keySize_le (a : SymmetricAlgorithm) : a.keySize ≤ 32 := by
  cases a <;> decide

/-- The clear text a password packet encrypts: the cipher octet and the key. -/
theorem SessionKey.size_clear (s : SessionKey) :
    (ByteArray.mk #[s.algorithm.id.toUInt8] ++ s.key).size = s.key.size + 1 := by
  simp [ByteArray.size_append]
  omega

/-- A password packet of a session key of the right length reads back. -/
theorem sealWithPassword_readsBack (sized : s.Sized) :
    (Packet.passwordSession (sealWithPassword s password hash count g).1).ReadsBack := by
  have sized : s.key.size = s.algorithm.keySize := sized
  have short := SymmetricAlgorithm.keySize_le s.algorithm
  refine ⟨?_, Packet.read_passwordSession (Cursor.readsLast_passwordSession rfl
    (CipherCode.ofNat_ofAlgorithm s.algorithm)
    (Cursor.reads_iterated (HashCode.ofNat_ofAlgorithm hash) (Entropy.size_bytes g 8) count.toNat_lt) rfl)⟩
  have encrypted : (sealWithPassword s password hash count g).1.encryptedKey.size = s.key.size + 1 := by
    simp only [sealWithPassword, Aes.size_cfbEncrypt]
    exact SessionKey.size_clear s
  have salt := Entropy.size_bytes g 8
  have limit : Header.maxBodyLength = 4294967295 := rfl
  simp only [Packet.body, PasswordSessionPacket.body]
  simp only [sealWithPassword, beq_self_eq_true, if_true, StringToKey.write, ByteArray.size_append,
    Bytes.size_pair, Bytes.size_singleton, salt] at encrypted ⊢
  omega

/-- A password packet opens with the password it was sealed with to the session key it holds. -/
theorem openPassword_sealWithPassword (sized : s.Sized) :
    openPassword (sealWithPassword s password hash count g).1 password = .ok s := by
  obtain ⟨key, derived⟩ := Option.isSome_iff_exists.mp (StringToKey.derive?_iterated_isSome hash
    (g.bytes 8).1 count.toNat password.toUTF8 s.algorithm.keySize)
  have sized : s.key.size = s.algorithm.keySize := sized
  have long : 16 ≤ s.key.size := by
    rw [sized]
    cases s.algorithm <;> decide
  -- the clear text is the cipher octet and the key; simp writes the octet with `UInt8.ofNat`
  have octet : (ByteArray.mk #[UInt8.ofNat s.algorithm.id] ++ s.key).get! 0 = UInt8.ofNat s.algorithm.id := by
    rw [Bytes.get!_append_left (by rw [Bytes.size_singleton]; omega)]
    rfl
  have idSmall : (UInt8.ofNat s.algorithm.id).toNat = s.algorithm.id := by
    cases s.algorithm <;> rfl
  have keyPart : (ByteArray.mk #[UInt8.ofNat s.algorithm.id] ++ s.key).extract 1 (1 + s.key.size) = s.key :=
    ByteArray.extract_append_eq_right (Bytes.size_singleton _).symm (by rw [Bytes.size_singleton])
  have nonempty : s.key.size ≠ 0 := by omega
  simp only [sealWithPassword, openPassword, CipherCode.toAlgorithm?_ofAlgorithm, derived, Option.getD_some,
    Aes.size_cfbEncrypt, Aes.cfbDecrypt_cfbEncrypt, StringToKey.isHashing, bind, Except.bind, pure,
    Except.pure, throw, throwThe, MonadExceptOf.throw]
  simp [Nat.toUInt8_eq, octet, idSmall, keyPart, nonempty, ← sized, ByteArray.size_append]

/-- A list of password packets whose first one opens with the password gives its session key. -/
theorem openWithPassword_cons {p : PasswordSessionPacket} (rest : List PasswordSessionPacket)
    (opened : openPassword p password = .ok s) : openWithPassword (p :: rest) password = .ok s := by
  simp [openWithPassword, openWithPassword.go, opened]

/-- The packets `passwordPacketFor` writes read back as the one password packet it sealed. -/
theorem read_passwordPacketFor (sized : s.Sized) :
    KeyPackets.read (passwordPacketFor s password hash count g).1 =
      .ok { password := [(sealWithPassword s password hash count g).1] } :=
  KeyPackets.read_write _ (fun _ mem => absurd mem List.not_mem_nil)
    (fun _ mem => by rw [List.mem_singleton.mp mem]; exact sealWithPassword_readsBack sized)

end SealedMail
