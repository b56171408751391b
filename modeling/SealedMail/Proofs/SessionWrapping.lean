import Mathlib
import SealedMail.Proofs.AttachmentRuns

/-! # Session keys wrapped again

A session key is wrapped for recipients by `keyPacketWithPublicKey` and for a password by
`passwordKeyPacket`, and unwrapped by `sessionFromKeyPacket` and `sessionFromPasswordPacket`,
which first take armored input out of its armor. Written session packets are never UTF-8 text:
a public-key packet starts with the byte 0xC1, and a password packet with 0xC3 followed by a
length below 0x80. So unwrapping reads them as they are, unless their bytes happen to hold the
armor's header mark, and then it fails (`sessionFromKeyPacket_written`,
`sessionFromPasswordPacket_written`).

The session a recipient recovers from the key part of a split decrypts its data part, so it can
be wrapped again for other recipients or for a password (`session_key_rewrapping`). The data part
must hold the data packet: a split whose key part is the whole message and whose data part is
empty decrypts for its recipient, but no rewrapping of its session decrypts the empty data part
(`rewrap_onto_empty_data_part_fails`).
-/

namespace SealedMail

/-! ## Session packets are not text -/

namespace Utf8

theorem decode_eq_error_of_step {b : ByteArray} {n : Nat} (inside : 0 < b.size) (bad : step b 0 = .bad n) :
    decode b = .error ⟨0, some n⟩ := by
  rw [decode, decodeFrom, dif_pos inside, bad]
  rfl

/-- 0xC1 would start an overlong two-byte form, so no UTF-8 text starts with it. -/
theorem step_of_overlong_lead {b : ByteArray} (lead : b.get! 0 = 0xc1) : step b 0 = .bad 1 := by
  simp [step, lead]

/-- A two-byte lead followed by a byte that is no continuation byte starts no character. -/
theorem step_of_cut_pair {b : ByteArray} (lead : b.get! 0 = 0xc3) (second : b.get! 1 < 0x80) (two : 2 ≤ b.size) :
    step b 0 = .bad 1 := by
  have notCont : ¬ (0x80 ≤ b.get! 1 ∧ b.get! 1 ≤ 0xbf) := by
    rintro ⟨low, -⟩
    rw [UInt8.lt_iff_toNat_lt] at second
    rw [UInt8.le_iff_toNat_le] at low
    simp only [UInt8.reduceToNat] at second low
    omega
  simp [step, step.good, lead, secondRange, notCont]
  omega

end Utf8

/-- Bytes that are no UTF-8 text are taken as they are unless they look armored, and are refused
when they do. -/
theorem dearmorMessage_of_not_text {b : ByteArray} {e : Utf8.Error} (notText : Utf8.decode b = .error e) :
    dearmorMessage b = if Armor.isArmored b then .error (.decryptionFailed ("armored message is not UTF-8: " ++ e.message))
      else .ok b := by
  cases armored : Armor.isArmored b <;> simp [dearmorMessage, armored, notText, throw, throwThe, MonadExceptOf.throw,
    pure, Except.pure, bind, Except.bind]

/-- Written public-key packets, and whatever follows them, start with the byte 0xC1. -/
theorem KeyPackets.decode_write_append {k : KeyPackets} (named : k.publicKey ≠ []) (rest : ByteArray) :
    Utf8.decode (KeyPackets.write k ++ rest) = .error ⟨0, some 1⟩ := by
  obtain ⟨p, ps, split⟩ := List.exists_cons_of_ne_nil named
  have bytes : KeyPackets.write k ++ rest = Header.write .new .publicKeyEncryptedSessionKey
      (Packet.publicKeySession p).body.size ++ ((Packet.publicKeySession p).body ++
        (Bytes.concat ((ps.map fun p => Packet.writeNew (.publicKeySession p)) ++
          k.password.map fun p => Packet.writeNew (.passwordSession p)) ++ rest)) := by
    simp only [KeyPackets.write, split, List.map_cons, List.cons_append, Bytes.concat_cons, Packet.writeNew,
      Header.packet, Packet.tag, ByteArray.append_assoc]
  have header := Header.size_write_new PacketTag.publicKeyEncryptedSessionKey (Packet.publicKeySession p).body.size
  have inside : 0 < (KeyPackets.write k ++ rest).size := by
    rw [bytes, ByteArray.size_append, ByteArray.size_append, header]
    split_ifs <;> omega
  refine Utf8.decode_eq_error_of_step inside (Utf8.step_of_overlong_lead ?_)
  rw [bytes, Header.get!_write_new]
  rfl

theorem KeyPackets.decode_write {k : KeyPackets} (named : k.publicKey ≠ []) :
    Utf8.decode (KeyPackets.write k) = .error ⟨0, some 1⟩ := by
  simpa only [ByteArray.append_empty] using KeyPackets.decode_write_append named ByteArray.empty

/-- The body of a password packet: version, cipher, an iterated specifier of eleven bytes and the
encrypted cipher octet and key. -/
theorem size_sealWithPassword_body (s : SessionKey) (password : String) (hash : HashAlgorithm) (count : UInt8)
    (g : Entropy) : (Packet.passwordSession (sealWithPassword s password hash count g).1).body.size = s.key.size + 14 := by
  have encrypted : (sealWithPassword s password hash count g).1.encryptedKey.size = s.key.size + 1 := by
    simp only [sealWithPassword, Aes.size_cfbEncrypt]
    exact SessionKey.size_clear s
  have salt := Entropy.size_bytes g 8
  simp only [Packet.body, PasswordSessionPacket.body]
  simp only [sealWithPassword, beq_self_eq_true, if_true, StringToKey.write, ByteArray.size_append,
    Bytes.size_pair, Bytes.size_singleton, salt] at encrypted ⊢
  omega

/-- A new-format header of a short body: the tag octet and the length. -/
theorem Header.write_new_short (t : PacketTag) {len : Nat} (short : len < 192) :
    Header.write .new t len = ByteArray.mk #[(0xc0 + t.toNat % 64).toUInt8, len.toUInt8] := by
  simp [Header.write, short]

/-- The password packet of a session key of the right length starts with 0xC3 and a length below
0x80, which is no UTF-8 text. -/
theorem decode_passwordPacketFor {s : SessionKey} (sized : s.Sized) (password : String) (hash : HashAlgorithm)
    (count : UInt8) (g : Entropy) : Utf8.decode (passwordPacketFor s password hash count g).1 = .error ⟨0, some 1⟩ := by
  have body := size_sealWithPassword_body s password hash count g
  have short : s.key.size ≤ 32 := (show s.key.size = s.algorithm.keySize from sized) ▸ SymmetricAlgorithm.keySize_le _
  generalize written : Packet.passwordSession (sealWithPassword s password hash count g).1 = q at body
  have bytes : (passwordPacketFor s password hash count g).1 =
      Header.write .new .symKeyEncryptedSessionKey q.body.size ++ (q.body ++ ByteArray.empty) := by
    rw [← written]
    simp only [passwordPacketFor, KeyPackets.write, List.map_nil, List.map_cons, List.nil_append, Bytes.concat_cons,
      Bytes.concat_nil, Packet.writeNew, Header.packet, Packet.tag, ByteArray.append_assoc]
  have second : q.body.size.toUInt8 < 0x80 := by
    rw [UInt8.lt_iff_toNat_lt, Nat.toUInt8_eq, UInt8.toNat_ofNat_of_lt' (show q.body.size < 256 by omega)]
    simp only [UInt8.reduceToNat]
    omega
  have header := Header.two_le_size_write .new PacketTag.symKeyEncryptedSessionKey q.body.size
  refine Utf8.decode_eq_error_of_step (by rw [bytes, ByteArray.size_append]; omega) (Utf8.step_of_cut_pair ?_ ?_ ?_)
  · rw [bytes, Header.get!_write_new]
    rfl
  · rw [bytes, Header.write_new_short _ (by omega), Bytes.get!_append_left (by simp)]
    exact second
  · rw [bytes, ByteArray.size_append]
    omega

/-! ## Reading session packets back -/

/-- Written session packets followed by a data packet, each reading back, read as those session
packets. -/
theorem KeyPackets.read_write_append (k : KeyPackets)
    (publicBack : ∀ p ∈ k.publicKey, (Packet.publicKeySession p).ReadsBack)
    (passwordBack : ∀ p ∈ k.password, (Packet.passwordSession p).ReadsBack) {v : Nat} {d : ByteArray}
    (dataBack : (Packet.protectedData v d).ReadsBack) :
    KeyPackets.read (KeyPackets.write k ++ Packet.writeNew (.protectedData v d)) = .ok k := by
  let packets := k.publicKey.map Packet.publicKeySession ++ k.password.map Packet.passwordSession ++
    [.protectedData v d]
  have written : KeyPackets.write k ++ Packet.writeNew (.protectedData v d) = Bytes.concat (packets.map Packet.writeNew) := by
    simp only [packets, KeyPackets.write, List.map_append, List.map_map, Bytes.concat_append, List.map_singleton,
      Bytes.concat_cons, Bytes.concat_nil, ByteArray.append_empty]
    rfl
  have back : ∀ p ∈ packets, p.ReadsBack := by
    intro p mem
    simp only [packets, List.mem_append, List.mem_map, List.mem_singleton] at mem
    rcases mem with (⟨q, mem, rfl⟩ | ⟨q, mem, rfl⟩) | rfl
    · exact publicBack q mem
    · exact passwordBack q mem
    · exact dataBack
  unfold KeyPackets.read
  -- the fold gathers the public-key packets, then the password packets, and passes over the data
  rw [written, Packet.checkFraming_written_back _ back, Packet.readAll_written_back _ back, List.map_append,
    List.map_append, List.map_map, List.map_map, List.foldl_append, List.foldl_append,
    KeyPackets.foldl_publicKey (fun _ _ => rfl), KeyPackets.foldl_password (fun _ _ => rfl)]
  rfl

/-- Session packets without a data packet are no message. -/
theorem ParsedMessage.parse_keyPackets (k : KeyPackets)
    (publicBack : ∀ p ∈ k.publicKey, (Packet.publicKeySession p).ReadsBack)
    (passwordBack : ∀ p ∈ k.password, (Packet.passwordSession p).ReadsBack) :
    ParsedMessage.parse (KeyPackets.write k) = .error (.decryptionFailed "no encrypted data packet") := by
  let packets := k.publicKey.map Packet.publicKeySession ++ k.password.map Packet.passwordSession
  have written : KeyPackets.write k = Bytes.concat (packets.map Packet.writeNew) := by
    simp only [packets, KeyPackets.write, List.map_append, List.map_map]
    rfl
  have back : ∀ p ∈ packets, p.ReadsBack := by
    intro p mem
    simp only [packets, List.mem_append, List.mem_map] at mem
    rcases mem with ⟨q, mem, rfl⟩ | ⟨q, mem, rfl⟩
    · exact publicBack q mem
    · exact passwordBack q mem
  rw [ParsedMessage.parse_eq, written, Packet.checkFraming_written_back _ back, Packet.readAll_written_back _ back]
  simp only [packets, List.map_append, List.map_map, List.foldlM_append, ParsedMessage.foldlM_gather_publicKey,
    ParsedMessage.foldlM_gather_password, Except.mapError, bind, Except.bind]
  rfl

/-- Any session key a ring opens has the length of its cipher's keys. -/
theorem openWithRing_sized {ps : List PublicKeySessionPacket} {ring : KeyRing} {passphrase : Option String}
    {s : SessionKey} (opened : openWithRing ps ring passphrase = .ok s) : s.Sized := by
  obtain ⟨-, found⟩ := openWithRing_ok_iff.mp opened
  obtain ⟨k, -, opens⟩ := List.exists_of_findSome?_eq_some found
  obtain ⟨u, x, m, -, -, -, -, read⟩ := Key.opensSession_eq_some opens
  unfold Material.openPacket at read
  cases decrypted : m.decryptSession x.1 with
  | error e => simp [decrypted, Except.mapError, bind, Except.bind] at read
  | ok plain =>
    simp only [decrypted, Except.mapError, bind, Except.bind] at read
    exact SessionKey.sized_of_sessionOfPlain read

/-- What decrypting a split of written packets with a ring takes: the session key its public-key
packets open to, and the data under that key. -/
theorem decryptSplitWithKeys_written_eq_ok {k : KeyPackets}
    (publicBack : ∀ p ∈ k.publicKey, (Packet.publicKeySession p).ReadsBack)
    (passwordBack : ∀ p ∈ k.password, (Packet.passwordSession p).ReadsBack) {v : Nat} {d : ByteArray}
    (dataBack : (Packet.protectedData v d).ReadsBack) {ring : KeyRing} {passphrase : Option String}
    {X : ByteArray}
    (decrypted : decryptSplitWithKeys (KeyPackets.write k) (Packet.writeNew (.protectedData v d)) ring passphrase =
      .ok X) :
    ∃ s c, openWithRing k.publicKey ring passphrase = .ok s ∧
      (decryptProtected s ⟨v, d⟩ (.decryptionFailed "session key does not match the data") >>= readContent) = .ok c ∧
      c.data = X := by
  rw [decryptSplitWithKeys, ParsedMessage.parse_written k v d publicBack passwordBack dataBack] at decrypted
  simp only [ParsedMessage.decryptWithKeys, ParsedMessage.decryptWithSession, bind, Except.bind] at decrypted
  cases opened : openWithRing k.publicKey ring passphrase with
  | error e => simp [opened] at decrypted
  | ok s =>
    rw [opened] at decrypted
    cases read : (decryptProtected s ⟨v, d⟩ (.decryptionFailed "session key does not match the data") >>= readContent)
    with
    | error e =>
      simp only [bind, Except.bind] at read
      simp [read] at decrypted
    | ok c =>
      simp only [bind, Except.bind] at read
      simp only [read, pure, Except.pure, Except.ok.injEq] at decrypted
      exact ⟨s, c, rfl, by simpa only [bind, Except.bind] using read, decrypted⟩

/-! ## Unwrapping -/

namespace Engine

variable {e : Engine} {s : SessionKey} {publicKey privateKeys : ByteArray} {R P : KeyRing} {passphrase : String}

/-- Unwrapping bytes that are no text and read as session packets: the session key the private
ring opens them to, unless the bytes look armored. -/
theorem sessionFromKeyPacket_eq_ok_iff {kp : ByteArray} {k : KeyPackets} {err : Utf8.Error}
    (notText : Utf8.decode kp = .error err) (read : KeyPackets.read kp = .ok k)
    (privateRing : KeyRing.parse privateKeys = .ok P) :
    sessionFromKeyPacket kp privateKeys passphrase = .ok s ↔
      Armor.isArmored kp = false ∧ openWithRing k.publicKey P (some passphrase) = .ok s := by
  rw [sessionFromKeyPacket, privateRing, dearmorMessage_of_not_text notText]
  cases Armor.isArmored kp <;> simp [read, bind, Except.bind]

theorem sessionFromPasswordPacket_eq_ok_iff {kp : ByteArray} {k : KeyPackets} {err : Utf8.Error}
    (notText : Utf8.decode kp = .error err) (read : KeyPackets.read kp = .ok k) (password : String) :
    sessionFromPasswordPacket kp password = .ok s ↔
      Armor.isArmored kp = false ∧ openWithPassword k.password password = .ok s := by
  rw [sessionFromPasswordPacket, dearmorMessage_of_not_text notText]
  cases Armor.isArmored kp <;> simp [read, bind, Except.bind]

/-- Wrapping a session key of the right length for recipients that receive session keys writes
their public-key packets, which read back and open with a private ring holding their secrets to
that session key. -/
theorem keyPacketWithPublicKey_sealed (recipients : KeyRing.parse publicKey = .ok R) (receives : R.Receives e.now)
    (holds : P.HoldsSecretsOf R e.now passphrase) (sized : s.Sized) (g : Entropy) :
    ∃ ps g', e.keyPacketWithPublicKey s publicKey g = .ok (KeyPackets.write { publicKey := ps }, g') ∧
      (∀ q ∈ ps, (Packet.publicKeySession q).ReadsBack) ∧ openWithRing ps P (some passphrase) = .ok s := by
  obtain ⟨bytes, g', sealed⟩ := keyPacketsFor_of_receives receives sized g
  obtain ⟨ps, written, back, opened⟩ := keyPacketsFor_opens receives holds sized sealed
  refine ⟨ps, g', ?_, back, opened⟩
  simp [keyPacketWithPublicKey, recipients, sealed, written, bind, Except.bind]

/-- A session key wrapped for recipients unwraps with a private key input holding their secrets,
exactly when the packets do not look armored. -/
theorem keyPacketWithPublicKey_unwraps (recipients : KeyRing.parse publicKey = .ok R) (receives : R.Receives e.now)
    (privateRing : KeyRing.parse privateKeys = .ok P) (holds : P.HoldsSecretsOf R e.now passphrase)
    (sized : s.Sized) (g : Entropy) :
    ∃ kp g', e.keyPacketWithPublicKey s publicKey g = .ok (kp, g') ∧
      (sessionFromKeyPacket kp privateKeys passphrase = .ok s ↔ Armor.isArmored kp = false) := by
  obtain ⟨ps, g', wrapped, back, opened⟩ := keyPacketWithPublicKey_sealed recipients receives holds sized g
  have named : ps ≠ [] := (openWithRing_ok_iff.mp opened).1
  refine ⟨_, g', wrapped, ?_⟩
  rw [sessionFromKeyPacket_eq_ok_iff (KeyPackets.decode_write named)
    (KeyPackets.read_write _ back fun _ mem => absurd mem List.not_mem_nil) privateRing]
  simp [opened]

/-- A session key wrapped for a password unwraps with it, exactly when the packet does not look
armored. -/
theorem passwordKeyPacket_unwraps (sized : s.Sized) (password : String) (g : Entropy) :
    sessionFromPasswordPacket (e.passwordKeyPacket s password g).1 password = .ok s ↔
      Armor.isArmored (e.passwordKeyPacket s password g).1 = false := by
  have read : KeyPackets.read (passwordPacketFor s password e.config.hash e.config.s2kCount g).1 =
      .ok { password := [(sealWithPassword s password e.config.hash e.config.s2kCount g).1] } :=
    read_passwordPacketFor sized
  rw [passwordKeyPacket, sessionFromPasswordPacket_eq_ok_iff (decode_passwordPacketFor sized _ _ _ _) read]
  simp [openWithPassword_cons [] (openPassword_sealWithPassword sized)]

/-- The session key a private key input recovers from a split of written packets that it decrypts:
the key packets give it back unless they look armored, and wrapped again for other recipients or
for a password it decrypts the data part to the same data. -/
theorem rewrapped_session_decrypts {k : KeyPackets}
    (publicBack : ∀ p ∈ k.publicKey, (Packet.publicKeySession p).ReadsBack)
    (passwordBack : ∀ p ∈ k.password, (Packet.passwordSession p).ReadsBack) {v : Nat} {d : ByteArray}
    (dataBack : (Packet.protectedData v d).ReadsBack) {X : ByteArray}
    (decrypted : decryptAttachment (KeyPackets.write k) (Packet.writeNew (.protectedData v d)) privateKeys passphrase =
      .ok X) :
    ∃ s, (sessionFromKeyPacket (KeyPackets.write k) privateKeys passphrase = .ok s ↔
        Armor.isArmored (KeyPackets.write k) = false) ∧
      (∀ (publicKey' privateKeys' : ByteArray) (R' P' : KeyRing) (passphrase' : String) (g : Entropy),
        KeyRing.parse publicKey' = .ok R' → R'.Receives e.now → KeyRing.parse privateKeys' = .ok P' →
        P'.HoldsSecretsOf R' e.now passphrase' →
        ∃ kp g', e.keyPacketWithPublicKey s publicKey' g = .ok (kp, g') ∧
          decryptAttachment kp (Packet.writeNew (.protectedData v d)) privateKeys' passphrase' = .ok X) ∧
      ∀ (password : String) (g : Entropy),
        decryptSplitWithPassword (e.passwordKeyPacket s password g).1 (Packet.writeNew (.protectedData v d)) password =
          .ok X := by
  cases privateRing : KeyRing.parse privateKeys with
  | error err => simp [decryptAttachment, privateRing, bind, Except.bind] at decrypted
  | ok P =>
    rw [decryptAttachment_eq privateRing] at decrypted
    obtain ⟨s, c, opened, opens, same⟩ := decryptSplitWithKeys_written_eq_ok publicBack passwordBack dataBack decrypted
    have sized := openWithRing_sized opened
    have named : k.publicKey ≠ [] := (openWithRing_ok_iff.mp opened).1
    refine ⟨s, ?_, fun publicKey' privateKeys' R' P' passphrase' g recipients receives privateRing' holds => ?_,
      fun password g => ?_⟩
    · rw [sessionFromKeyPacket_eq_ok_iff (KeyPackets.decode_write named)
        (KeyPackets.read_write k publicBack passwordBack) privateRing]
      simp [opened]
    · obtain ⟨ps, g', wrapped, back, opened'⟩ := keyPacketWithPublicKey_sealed recipients receives holds sized g
      refine ⟨_, g', wrapped, ?_⟩
      rw [decryptAttachment_eq privateRing', ← same]
      exact decryptSplitWithKeys_of_opens back opened' dataBack opens
    · rw [← same]
      exact decryptSplitWithPassword_of_opens sized password _ _ g dataBack opens

end Engine

/-- A split of a whole message and an empty data part decrypts as the message does. -/
theorem Engine.decryptAttachment_whole_message (kp dp privateKeys : ByteArray) (passphrase : String) :
    Engine.decryptAttachment (kp ++ dp) ByteArray.empty privateKeys passphrase =
      Engine.decryptAttachment kp dp privateKeys passphrase := by
  simp only [Engine.decryptAttachment, decryptSplitWithKeys, ByteArray.append_empty]

/-! ## Wrapping again -/

/-- Session keys survive wrapping and unwrapping. A session key of the right length wrapped for
recipients that receive session keys unwraps with a private key input holding their secrets, and
one wrapped for a password unwraps with it, each exactly when the packets do not look armored.
And for every split of written session packets and a written data packet that a private key
input decrypts, the session key it recovers, wrapped again for other recipients or for a
password, decrypts the data part to the same data. -/
theorem session_key_rewrapping (e : Engine) :
    (∀ (s : SessionKey) (publicKey privateKeys : ByteArray) (R P : KeyRing) (passphrase : String) (g : Entropy),
      s.Sized → KeyRing.parse publicKey = .ok R → R.Receives e.now → KeyRing.parse privateKeys = .ok P →
      P.HoldsSecretsOf R e.now passphrase →
      ∃ kp g', e.keyPacketWithPublicKey s publicKey g = .ok (kp, g') ∧
        (Engine.sessionFromKeyPacket kp privateKeys passphrase = .ok s ↔ Armor.isArmored kp = false)) ∧
    (∀ (s : SessionKey) (password : String) (g : Entropy), s.Sized →
      (Engine.sessionFromPasswordPacket (e.passwordKeyPacket s password g).1 password = .ok s ↔
        Armor.isArmored (e.passwordKeyPacket s password g).1 = false)) ∧
    ∀ (k : KeyPackets) (v : Nat) (d privateKeys : ByteArray) (passphrase : String) (X : ByteArray),
      (∀ p ∈ k.publicKey, (Packet.publicKeySession p).ReadsBack) →
      (∀ p ∈ k.password, (Packet.passwordSession p).ReadsBack) → (Packet.protectedData v d).ReadsBack →
      Engine.decryptAttachment (KeyPackets.write k) (Packet.writeNew (.protectedData v d)) privateKeys passphrase =
        .ok X →
      ∃ s, (Engine.sessionFromKeyPacket (KeyPackets.write k) privateKeys passphrase = .ok s ↔
          Armor.isArmored (KeyPackets.write k) = false) ∧
        (∀ (publicKey' privateKeys' : ByteArray) (R' P' : KeyRing) (passphrase' : String) (g : Entropy),
          KeyRing.parse publicKey' = .ok R' → R'.Receives e.now → KeyRing.parse privateKeys' = .ok P' →
          P'.HoldsSecretsOf R' e.now passphrase' →
          ∃ kp g', e.keyPacketWithPublicKey s publicKey' g = .ok (kp, g') ∧
            Engine.decryptAttachment kp (Packet.writeNew (.protectedData v d)) privateKeys' passphrase' = .ok X) ∧
        ∀ (password : String) (g : Entropy),
          decryptSplitWithPassword (e.passwordKeyPacket s password g).1 (Packet.writeNew (.protectedData v d))
            password = .ok X :=
  ⟨fun _ _ _ _ _ _ g sized recipients receives privateRing holds =>
      Engine.keyPacketWithPublicKey_unwraps recipients receives privateRing holds sized g,
    fun _ password g sized => Engine.passwordKeyPacket_unwraps sized password g,
    fun _ _ _ _ _ _ publicBack passwordBack dataBack decrypted =>
      Engine.rewrapped_session_decrypts publicBack passwordBack dataBack decrypted⟩

/-- A session key of the right length for AES-128. -/
def sampleSession : SessionKey := ⟨.aes128, ⟨Array.replicate 16 7⟩⟩

theorem sampleSession_sized : sampleSession.Sized := rfl

/-- The sample RSA key as recipient and private key input: a wrapped session key unwraps, and an
attachment encrypted to the key has a session that decrypts its data part once wrapped again. -/
theorem sampleKey_session_rewrapping :
    (∃ kp g', ({ now := 0 } : Engine).keyPacketWithPublicKey sampleSession SampleKey.publicText.toUTF8 default =
        .ok (kp, g') ∧
      (Engine.sessionFromKeyPacket kp SampleKey.privateText.toUTF8 "pw" = .ok sampleSession ↔
        Armor.isArmored kp = false)) ∧
    (Engine.sessionFromPasswordPacket (({ now := 0 } : Engine).passwordKeyPacket sampleSession "pw" default).1 "pw" =
        .ok sampleSession ↔
      Armor.isArmored (({ now := 0 } : Engine).passwordKeyPacket sampleSession "pw" default).1 = false) ∧
    ∃ (k : KeyPackets) (v : Nat) (d X : ByteArray),
      Engine.decryptAttachment (KeyPackets.write k) (Packet.writeNew (.protectedData v d)) SampleKey.privateText.toUTF8
        "pw" = .ok X ∧
      ∃ s, (Engine.sessionFromKeyPacket (KeyPackets.write k) SampleKey.privateText.toUTF8 "pw" = .ok s ↔
          Armor.isArmored (KeyPackets.write k) = false) ∧
        (∃ kp g', ({ now := 0 } : Engine).keyPacketWithPublicKey s SampleKey.publicText.toUTF8 default = .ok (kp, g') ∧
          Engine.decryptAttachment kp (Packet.writeNew (.protectedData v d)) SampleKey.privateText.toUTF8 "pw" = .ok X) ∧
        decryptSplitWithPassword (({ now := 0 } : Engine).passwordKeyPacket s "pw" default).1
          (Packet.writeNew (.protectedData v d)) "pw" = .ok X := by
  have laws := session_key_rewrapping { now := 0 }
  refine ⟨laws.1 sampleSession _ _ _ _ "pw" default sampleSession_sized SampleKey.parse_publicText
      (SampleKey.receives 0) SampleKey.parse_privateText (SampleKey.holdsSecrets 0 "pw"),
    laws.2.1 sampleSession "pw" default sampleSession_sized, ?_⟩
  -- an attachment encrypted to the key gives the split
  obtain ⟨s, ps, payload, g₁, -, -, -, back, opened, -, fits⟩ := Engine.encryptAttachment_split (e := { now := 0 })
    SampleKey.parse_publicText (SampleKey.receives 0) (SampleKey.holdsSecrets 0 "pw") "hello".toUTF8 "a.txt" default
    (by decide)
  have decrypted : Engine.decryptAttachment (KeyPackets.write { publicKey := ps })
      (Packet.writeNew (sealedPacket s payload g₁)) SampleKey.privateText.toUTF8 "pw" = .ok payload.data := by
    rw [Engine.decryptAttachment_eq SampleKey.parse_privateText]
    exact decryptSplitWithKeys_sealed back opened g₁ fits
  obtain ⟨s', unwraps, keys, password⟩ := laws.2.2 { publicKey := ps } 1 _ _ "pw" payload.data back
    (fun _ mem => absurd mem List.not_mem_nil) (sealedPacket_readsBack s payload g₁ fits) decrypted
  exact ⟨{ publicKey := ps }, 1, _, payload.data, decrypted, s', unwraps,
    keys _ _ _ _ "pw" default SampleKey.parse_publicText (SampleKey.receives 0) SampleKey.parse_privateText
      (SampleKey.holdsSecrets 0 "pw"),
    password "pw" default⟩

/-- A split whose key part is a whole message encrypted to the sample key and whose data part is
empty decrypts for the key; the key recovers the session from it unless it looks armored; but that
session, wrapped again for any password, does not decrypt the empty data part. -/
theorem rewrap_onto_empty_data_part_fails :
    ∃ (split : EncryptedSplit) (g' : Entropy) (s : SessionKey),
      ({ now := 0 } : Engine).encryptAttachment "hello".toUTF8 "a.txt" SampleKey.publicText.toUTF8 default =
        .ok (split, g') ∧
      Engine.decryptAttachment (split.keyPacket ++ split.dataPacket) ByteArray.empty SampleKey.privateText.toUTF8 "pw" =
        .ok "hello".toUTF8 ∧
      (Engine.sessionFromKeyPacket (split.keyPacket ++ split.dataPacket) SampleKey.privateText.toUTF8 "pw" = .ok s ↔
        Armor.isArmored (split.keyPacket ++ split.dataPacket) = false) ∧
      ∀ (password : String) (g : Entropy),
        decryptSplitWithPassword (({ now := 0 } : Engine).passwordKeyPacket s password g).1 ByteArray.empty password =
          .error (.decryptionFailed "no encrypted data packet") := by
  obtain ⟨s, ps, payload, g₁, g', encrypted, sized, back, opened, same, fits⟩ := Engine.encryptAttachment_split
    (e := { now := 0 }) SampleKey.parse_publicText (SampleKey.receives 0) (SampleKey.holdsSecrets 0 "pw")
    "hello".toUTF8 "a.txt" default (by decide)
  have named : ps ≠ [] := (openWithRing_ok_iff.mp opened).1
  refine ⟨_, g', s, encrypted, ?_, ?_, fun password g => ?_⟩
  · rw [Engine.decryptAttachment_whole_message, Engine.decryptAttachment_eq SampleKey.parse_privateText, ← same]
    exact decryptSplitWithKeys_sealed back opened g₁ fits
  · dsimp only [sealedPacket]
    rw [Engine.sessionFromKeyPacket_eq_ok_iff (KeyPackets.decode_write_append named _)
      (KeyPackets.read_write_append _ back (fun _ mem => absurd mem List.not_mem_nil)
        (sealedPacket_readsBack s payload g₁ fits)) SampleKey.parse_privateText]
    simp [opened]
  · -- the password packet alone is no message
    rw [decryptSplitWithPassword, ByteArray.append_empty, Engine.passwordKeyPacket, passwordPacketFor,
      ParsedMessage.parse_keyPackets _ (fun _ mem => absurd mem List.not_mem_nil)
        (fun _ mem => by rw [List.mem_singleton.mp mem]; exact sealWithPassword_readsBack sized)]
    rfl

end SealedMail
