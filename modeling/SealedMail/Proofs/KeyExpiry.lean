import Mathlib
import SealedMail.Proofs.GeneratedKeys
import SealedMail.Proofs.ValiditySettings

/-! # Key expiry over time

Whether a key has expired, and whether it can still be encrypted to, only ever turns from "yes"
to "no" as the clock moves forward (at nonzero times, which do check expiry). Each test the
choice of encryption key makes is closed under going back in time: the primary key expires
after a fixed time (`Key.isExpired_of_le`), and a subkey that may encrypt at a later time may at
an earlier one (`Subkey.encryptsAt_of_le`). So the choice fails at every later time once it
fails (`Key.encryptionKey_eq_none_of_le`), and a key input found expired stays expired
(`Engine.isKeyExpired_of_le`).

For a key that the key maker generates, the lifetime is written as the expiry of both the
certification of its user id and the binding of its subkey. Read back from its armored public
form, such a key is expired exactly when it has a lifetime and the clock is past its creation
time plus that lifetime (`KeyMaker.generated_isKeyExpired`). Both results are gathered in
`key_expiry_over_time`.
-/

namespace SealedMail

theorem lastMaxBy_eq_none_iff {α : Type} (f : α → Nat) (l : List α) : lastMaxBy f l = none ↔ l = [] := by
  cases l <;> simp [lastMaxBy]

/-! ## Expiry only grows with time -/

namespace Key

theorem isExpired_of_le {k : Key} {t₁ t₂ : Int} (le : t₁ ≤ t₂) (expired : k.isExpired t₁ = true) :
    k.isExpired t₂ = true := by
  unfold isExpired at expired ⊢
  cases expiry : k.expirationTime with
  | none => simp [expiry] at expired
  | some e =>
    simp only [expiry, decide_eq_true_eq] at expired ⊢
    omega

end Key

namespace Subkey

/-- A subkey that may encrypt at a time may at every earlier time: being bound, unrevoked and
allowed does not depend on the time, and its expiry is a fixed time. -/
theorem encryptsAt_of_le {s : Subkey} {t₁ t₂ : Int} (le : t₁ ≤ t₂)
    (later : encryptsAt t₂ s = true) : encryptsAt t₁ s = true := by
  simp only [encryptsAt, Bool.and_eq_true, Bool.or_eq_true, beq_iff_eq] at later ⊢
  obtain ⟨allowed, inTime⟩ := later
  refine ⟨allowed, .inr ?_⟩
  cases expiry : s.expirationTime with
  | none => rfl
  | some e =>
    rw [expiry] at inTime
    simp only [decide_eq_true_eq] at inTime ⊢
    omega

end Subkey

namespace Key

/-- Once a key has no encryption key at a nonzero time, it has none at any later time. -/
theorem encryptionKey_eq_none_of_le {k : Key} {t₁ t₂ : Int} (pos : 0 < t₁) (le : t₁ ≤ t₂)
    (none₁ : k.encryptionKey t₁ = none) : k.encryptionKey t₂ = none := by
  rw [encryptionKey_eq] at none₁ ⊢
  have nonzero : (t₂ != 0) = true := by simp only [bne_iff_ne]; omega
  by_cases refused : (k.revoked || (t₁ != 0 && k.isExpired t₁)) = true
  · -- revoked, or expired already at `t₁`
    rw [if_pos]
    simp only [Bool.or_eq_true, Bool.and_eq_true] at refused ⊢
    rcases refused with revoked | ⟨-, expired⟩
    · exact .inl revoked
    · exact .inr ⟨nonzero, isExpired_of_le le expired⟩
  rw [if_neg refused] at none₁
  split
  · rfl
  -- neither subkeys nor the primary key could take session keys at `t₁`
  obtain ⟨noSubkey, noPrimary⟩ := Option.or_eq_none_iff.mp none₁
  rw [Option.map_eq_none_iff, lastMaxBy_eq_none_iff, List.filter_eq_nil_iff] at noSubkey
  have laterSubkeys : k.subkeys.filter (Subkey.encryptsAt t₂) = [] := by
    rw [List.filter_eq_nil_iff]
    intro s member later
    exact noSubkey s member (Subkey.encryptsAt_of_le le later)
  rw [laterSubkeys]
  exact noPrimary

end Key

/-- A key input found expired at a nonzero time is found expired at every later time. -/
theorem Engine.isKeyExpired_of_le {e₁ e₂ : Engine} {R : ByteArray} (pos : 0 < e₁.now) (le : e₁.now ≤ e₂.now)
    (expired : e₁.isKeyExpired R = .ok true) : e₂.isKeyExpired R = .ok true := by
  unfold Engine.isKeyExpired at expired ⊢
  cases parsed : KeyRing.parse R with
  | error err =>
    rw [parsed] at expired
    cases expired
  | ok ring =>
    rw [parsed] at expired
    simp only [bind, Except.bind, pure, Except.pure, Except.ok.injEq, List.all_eq_true, Option.isNone_iff_eq_none]
      at expired ⊢
    intro k member
    exact Key.encryptionKey_eq_none_of_le pos le (expired k member)

/-! ## Generated keys expire after their lifetime -/

/-- The key packet of fresh material reads back once written, as a primary key or as a subkey. -/
theorem FreshKey.Fits.rereads_publicKey {f : FreshKey} (fits : f.Fits) {created : Nat} (time : created < Nat.pow 2 32) :
    (Packet.publicKey (f.keyPacket created)).Rereads ∧ (Packet.publicSubkey (f.keyPacket created)).Rereads := by
  have read := (Cursor.reads_keyPacket (k := f.keyPacket created) rfl rfl time fits.named fits.params).readsLast
  -- a few thousand bytes at most: the version, the time, the algorithm and the public numbers
  have short : (f.keyPacket created).body.size ≤ Header.maxBodyLength := by
    have params := fits.paramsShort
    have head : (ByteArray.mk #[(f.keyPacket created).version.toUInt8]).size = 1 := rfl
    have code : (ByteArray.mk #[(f.keyPacket created).algorithm.toNat.toUInt8]).size = 1 := rfl
    have four : Nat.pow 2 32 = 4294967296 := rfl
    have old : ¬ (f.keyPacket created).version < 4 := Nat.lt_irrefl 4
    simp only [KeyPacket.body, if_neg old, ByteArray.size_append, Bytes.u32, Bytes.size_ofNatBE, Header.maxBodyLength,
      four, head, code]
    change 1 + 4 + 1 + f.params.write.size ≤ 4294967296 - 1
    omega
  exact ⟨⟨⟨short, fun _ => show 6 < 16 by decide⟩, (read.map Packet.publicKey).body⟩,
    ⟨⟨short, fun _ => show 14 < 16 by decide⟩, (read.map Packet.publicSubkey).body⟩⟩

namespace KeyMaker

variable {km : KeyMaker} {userId passphrase : String} {primary subkey : FreshKey} {g g' : Entropy} {K : Key}
  {pk : KeyPacket} {cert binding : Signature} {ps ss : SecretParams}

/-- The binding gives the subkey the lifetime of assembly, as the certification gives it to the
primary key. -/
theorem binding_expires (signed : (km.bindingConfig pk).SignedFrom binding) : binding.keyExpiration? = km.lifetime := by
  obtain ⟨digest, vs, -, -, rfl⟩ := signed
  cases lifetime : km.lifetime <;> simp [Signature.keyExpiration?, bindingConfig, baseSubpackets, lifetime]

/-- What assembly makes once its self-signatures verify: the sealed key of a certification and
a binding made from the settings assembly asks for. -/
theorem assemble_sealed (signing : primary.Signing) (h : km.assemble userId primary subkey passphrase g = .ok (K, g'))
    (signed : K.SelfSigned) :
    ∃ cert binding ps ss, K = km.sealedKey userId primary subkey cert binding ps ss ∧
      (km.certificationConfig (primary.keyPacket km.created)).SignedFrom cert ∧
      (km.bindingConfig (primary.keyPacket km.created)).SignedFrom binding ∧
      SecretParams.SealedAs passphrase km.config (some (.plain primary.secret)) (some ps) ∧
      SecretParams.SealedAs passphrase km.config (some (.plain subkey.secret)) (some ss) := by
  obtain ⟨cert, binding, certSigned, bindSigned, locked⟩ := assemble_eq_ok h
  have certFrom := signing.signedFrom rfl rfl certSigned
  have bindFrom := signing.signedFrom rfl rfl bindSigned
  -- locking the validated draft succeeds, and what it locks into is what assembly returned
  obtain ⟨L, g'', relocked, r⟩ := Key.lock_of_unlocked (draft_validate_state cert binding) passphrase km.config g
  rw [locked, Except.ok.injEq, Prod.mk.injEq] at relocked
  obtain ⟨rfl, -⟩ := relocked
  obtain ⟨ps, ss, rfl, primarySealed, subkeySealed⟩ :=
    eq_sealedKey r signed (km.certification_says certFrom).1 (km.binding_says bindFrom).1
  exact ⟨cert, binding, ps, ss, rfl, certFrom, bindFrom, primarySealed, subkeySealed⟩

theorem sealedKey_publicPackets : (km.sealedKey userId primary subkey cert binding ps ss).packets false =
    [.publicKey (primary.keyPacket km.created), .userId .new userId.toUTF8, .signature cert,
      .publicSubkey (subkey.keyPacket km.created), .signature binding] := rfl

/-- The public packets of the sealed key read back, when the user id fits a packet. -/
theorem sealedKey_public_rereads (signing : primary.Signing) (encrypting : subkey.Encrypting)
    (life : ∀ L ∈ km.lifetime, L < Nat.pow 2 32) (short : userId.toUTF8.size ≤ Header.maxBodyLength)
    (certFrom : (km.certificationConfig (primary.keyPacket km.created)).SignedFrom cert)
    (bindFrom : (km.bindingConfig (primary.keyPacket km.created)).SignedFrom binding) :
    ∀ p ∈ (km.sealedKey userId primary subkey cert binding ps ss).packets false, p.Rereads := by
  rw [sealedKey_publicPackets]
  simp only [List.mem_cons, List.not_mem_nil, or_false]
  rintro p (rfl | rfl | rfl | rfl | rfl)
  · exact (signing.fits.rereads_publicKey km.created_lt).1
  · exact Packet.rereads_userId .new short
  · exact Packet.rereads_signature (km.certification_fits life signing.fits.named certFrom)
  · exact (encrypting.fits.rereads_publicKey km.created_lt).2
  · exact Packet.rereads_signature (km.binding_fits life signing.fits.named bindFrom)

/-- The public half of the sealed key encrypts to its subkey until the lifetime, counted from
the creation time, is over, and to nothing after; without a lifetime, always. -/
theorem sealedKey_toPublic_encryptionKey (certifies : cert.isCertification = true)
    (certExpires : cert.keyExpiration? = km.lifetime) (binds : binding.typ = .subkeyBinding)
    (encrypts : allowsEncryption binding = true) (bindExpires : binding.keyExpiration? = km.lifetime)
    (canEncrypt : subkey.algorithm.canEncrypt = true) (t : Int) :
    (km.sealedKey userId primary subkey cert binding ps ss).toPublic.encryptionKey t =
      if 0 < km.lifetime.getD 0 ∧ (km.created : Int) + km.lifetime.getD 0 < t then none
      else some ⟨subkey.keyPacket km.created, none, false⟩ := by
  -- the key and its one subkey expire at the same time
  have keyExpiry : (km.sealedKey userId primary subkey cert binding ps ss).toPublic.expirationTime =
      if 0 < km.lifetime.getD 0 then some (km.created + km.lifetime.getD 0) else none := by
    change (km.sealedKey userId primary subkey cert binding ps ss).expirationTime = _
    rw [sealedKey_expirationTime certifies, expiryAfter_of_lifetime _ certExpires]
  have bindingInForce : Subkey.binding ⟨subkey.keyPacket km.created, none, [binding], true, false⟩ = some binding := by
    simp [Subkey.binding, binds, lastMaxBy]
  have subkeyExpiry : Subkey.expirationTime ⟨subkey.keyPacket km.created, none, [binding], true, false⟩ =
      if 0 < km.lifetime.getD 0 then some (km.created + km.lifetime.getD 0) else none := by
    rw [Subkey.expirationTime, bindingInForce, Option.bind_some, expiryAfter_of_lifetime _ bindExpires]
    rfl
  have publicHalf : (km.sealedKey userId primary subkey cert binding ps ss).toPublic.subkeys =
      [⟨subkey.keyPacket km.created, none, [binding], true, false⟩] := rfl
  rw [Key.encryptionKey_eq, publicHalf]
  have revoked : (km.sealedKey userId primary subkey cert binding ps ss).toPublic.revoked = false := rfl
  by_cases past : 0 < km.lifetime.getD 0 ∧ (km.created : Int) + km.lifetime.getD 0 < t
  · -- past the lifetime the primary key has expired
    rw [if_pos past, if_pos]
    simp only [revoked, Bool.false_or, Bool.and_eq_true, bne_iff_ne, Key.isExpired, keyExpiry, if_pos past.1,
      decide_eq_true_eq]
    omega
  · -- within it, or without one, the primary key has not expired and the subkey may encrypt
    have live : ¬ (km.sealedKey userId primary subkey cert binding ps ss).toPublic.isExpired t = true := by
      simp only [Key.isExpired, keyExpiry]
      split_ifs with positive
      · simp only [decide_eq_true_eq]
        omega
      · simp
    have inTime : Subkey.encryptsAt t ⟨subkey.keyPacket km.created, none, [binding], true, false⟩ = true := by
      have able : (Subkey.material ⟨subkey.keyPacket km.created, none, [binding], true, false⟩).canEncrypt = true :=
        canEncrypt
      simp only [Subkey.encryptsAt, bindingInForce, subkeyExpiry, encrypts, able, Bool.and_eq_true, Bool.or_eq_true,
        beq_iff_eq, Bool.not_false, and_self, true_and]
      split_ifs with positive
      · simp only [decide_eq_true_eq]
        omega
      · simp
    rw [if_neg past, if_neg (by simp [revoked, live]), List.filter_cons_of_pos inTime, List.filter_nil]
    rfl

/-- The armored public form of a generated key parses back as the key's public half. -/
theorem parse_armorPublic_sealed (signing : primary.Signing) (encrypting : subkey.Encrypting)
    (life : ∀ L ∈ km.lifetime, L < Nat.pow 2 32) (short : userId.toUTF8.size ≤ Header.maxBodyLength)
    (certFrom : (km.certificationConfig (primary.keyPacket km.created)).SignedFrom cert)
    (bindFrom : (km.bindingConfig (primary.keyPacket km.created)).SignedFrom binding)
    (signed : (km.sealedKey userId primary subkey cert binding ps ss).SelfSigned) :
    KeyRing.parse (km.sealedKey userId primary subkey cert binding ps ss).armorPublic.toUTF8 =
      .ok ⟨[(km.sealedKey userId primary subkey cert binding ps ss).toPublic]⟩ := by
  have settled := sealedKey_settled signed (km.certification_says certFrom).1 (km.binding_says bindFrom).1
  have back : ∀ p ∈ (km.sealedKey userId primary subkey cert binding ps ss).packets false, p.Rereads :=
    sealedKey_public_rereads signing encrypting life short certFrom bindFrom
  have parsed := KeyRing.parse_armoredPublic [km.sealedKey userId primary subkey cert binding ps ss]
    (List.cons_ne_nil _ _) (fun k member => by rw [List.mem_singleton.mp member]; exact settled)
    (fun k member => by rw [List.mem_singleton.mp member]; exact back)
  simpa using parsed

/-- A generated key, read back from its armored public form, is expired at a time exactly when
it has a lifetime and the time is past its creation time plus the lifetime. -/
theorem generated_isKeyExpired (c : Nat) (name domain passphrase : String) (clock : km.now = c) (small : c < 2 ^ 32)
    (life : ∀ L ∈ km.lifetime, L < 2 ^ 32)
    (made : (∃ kind bits g, km.generate name domain passphrase kind bits g = .ok (K, g')) ∨
      ∃ bits p₁ p₂ p₃ p₄ g, km.fromPrimes name domain passphrase bits p₁ p₂ p₃ p₄ g = .ok (K, g'))
    (signed : K.SelfSigned) (short : (userIdOf name domain).toUTF8.size ≤ Header.maxBodyLength) (e : Engine) :
    e.isKeyExpired K.armorPublic.toUTF8 = .ok (decide (0 < km.lifetime.getD 0 ∧ (c : Int) + km.lifetime.getD 0 < e.now)) := by
  have four : Nat.pow 2 32 = 2 ^ 32 := rfl
  have created : km.created = c := KeyMaker.created_of_clock clock small
  obtain ⟨primary, subkey, g, signing, encrypting, assembled⟩ : ∃ primary subkey g, primary.Signing ∧
      subkey.Encrypting ∧ km.assemble (userIdOf name domain) primary subkey passphrase g = .ok (K, g') := by
    rcases made with ⟨kind, bits, g, generated⟩ | ⟨bits, p₁, p₂, p₃, p₄, g, built⟩
    · exact generate_eq_ok generated
    · obtain ⟨primary, subkey, signing, encrypting, assembled⟩ := fromPrimes_eq_ok built
      exact ⟨primary, subkey, g, signing, encrypting, assembled⟩
  obtain ⟨cert, binding, ps, ss, rfl, certFrom, bindFrom, -, -⟩ := assemble_sealed signing assembled signed
  obtain ⟨certifies, -, certExpires⟩ := km.certification_says certFrom
  obtain ⟨binds, encrypts⟩ := km.binding_says bindFrom
  have parsed := parse_armorPublic_sealed signing encrypting (by rw [four]; exact life) short certFrom bindFrom signed
  rw [Engine.isKeyExpired, parsed]
  simp only [bind, Except.bind, pure, Except.pure, List.all_cons, List.all_nil, Bool.and_true, Except.ok.injEq,
    sealedKey_toPublic_encryptionKey certifies certExpires binds encrypts (binding_expires bindFrom)
      encrypting.canEncrypt, created]
  split_ifs with past <;> simp [past]

end KeyMaker

/-- Key expiry over time. At nonzero times, a key that has expired, or that has no key to
encrypt to, stays so at every later time, and so does a key input found expired. A key that
the key maker generates with its clock at a time that fits four bytes, and with a lifetime that
fits four bytes, read back from its armored public form, is found expired at a time exactly
when it has a lifetime and the time is past its creation plus the lifetime, as long as its
self-signatures verify and its user id fits a packet. -/
theorem key_expiry_over_time :
    (∀ (k : Key) (t₁ t₂ : Int), 0 < t₁ → t₁ ≤ t₂ →
      (k.isExpired t₁ = true → k.isExpired t₂ = true) ∧ (k.encryptionKey t₁ = none → k.encryptionKey t₂ = none)) ∧
    (∀ (R : ByteArray) (e₁ e₂ : Engine), 0 < e₁.now → e₁.now ≤ e₂.now →
      e₁.isKeyExpired R = .ok true → e₂.isKeyExpired R = .ok true) ∧
    (∀ (km : KeyMaker) (c : Nat) (name domain passphrase : String) (K : Key) (g' : Entropy),
      km.now = c → c < 2 ^ 32 → (∀ L ∈ km.lifetime, L < 2 ^ 32) →
      ((∃ kind bits g, km.generate name domain passphrase kind bits g = .ok (K, g')) ∨
        ∃ bits p₁ p₂ p₃ p₄ g, km.fromPrimes name domain passphrase bits p₁ p₂ p₃ p₄ g = .ok (K, g')) →
      K.SelfSigned → (userIdOf name domain).toUTF8.size ≤ Header.maxBodyLength →
      ∀ e : Engine, e.isKeyExpired K.armorPublic.toUTF8 =
        .ok (decide (0 < km.lifetime.getD 0 ∧ (c : Int) + km.lifetime.getD 0 < e.now))) :=
  ⟨fun _ _ _ pos le => ⟨Key.isExpired_of_le le, Key.encryptionKey_eq_none_of_le pos le⟩,
    fun _ _ _ pos le => Engine.isKeyExpired_of_le pos le,
    fun _ c name domain passphrase _ _ clock small life made signed short e =>
      KeyMaker.generated_isKeyExpired c name domain passphrase clock small life made signed short e⟩

/-- RSA-512 keys built from four primes, read back from their armored public forms: without a
lifetime the key is not expired a second after its creation, nor a century later; with a lifetime
of 1000 seconds it is not expired 500 seconds after its creation and is expired 1001 seconds
after. -/
theorem sample_keys_expire_by_lifetime :
    (∃ K g', sampleMaker.fromPrimes "alice" "example.org" "secret" 512
        (Bytes.ofNatBE 0xf774eb5248db40af72158370d269a9a5ae658f33fe3b890b93f448b3a5aa3c81 32)
        (Bytes.ofNatBE 0xde7d6b377936d536243d35702c1eea1f265974a7cc966f46c6aa7d550101b811 32)
        (Bytes.ofNatBE 0xc2b38755cd37880e16ac4191a26aa0ae044f1574f037afc644d82a531289bafb 32)
        (Bytes.ofNatBE 0xcf28f65e408fc146794ec926bc9e28eabee8062610e8ad0186a74a63a8c7d9e1 32)
        (Entropy.ofSeed (ByteArray.mk #[1, 2, 3])) = .ok (K, g') ∧
      Engine.isKeyExpired { now := 1700000001 } K.armorPublic.toUTF8 = .ok false ∧
      Engine.isKeyExpired { now := 4855000000 } K.armorPublic.toUTF8 = .ok false) ∧
    ∃ K g', expiringMaker.fromPrimes "alice" "example.org" "secret" 512
        (Bytes.ofNatBE 0xf774eb5248db40af72158370d269a9a5ae658f33fe3b890b93f448b3a5aa3c81 32)
        (Bytes.ofNatBE 0xde7d6b377936d536243d35702c1eea1f265974a7cc966f46c6aa7d550101b811 32)
        (Bytes.ofNatBE 0xc2b38755cd37880e16ac4191a26aa0ae044f1574f037afc644d82a531289bafb 32)
        (Bytes.ofNatBE 0xcf28f65e408fc146794ec926bc9e28eabee8062610e8ad0186a74a63a8c7d9e1 32)
        (Entropy.ofSeed (ByteArray.mk #[1, 2, 3])) = .ok (K, g') ∧
      Engine.isKeyExpired { now := 1700000500 } K.armorPublic.toUTF8 = .ok false ∧
      Engine.isKeyExpired { now := 1700001001 } K.armorPublic.toUTF8 = .ok true := by
  obtain ⟨K, g', built, signed⟩ := sampleMaker_builds
  obtain ⟨K', g'', built', signed'⟩ := expiringMaker_builds
  have never := key_expiry_over_time.2.2 sampleMaker 1700000000 "alice" "example.org" "secret" K g' rfl
    (by norm_num) (by simp [sampleMaker]) (.inr ⟨512, _, _, _, _, _, built⟩) signed (by decide)
  have expiring := key_expiry_over_time.2.2 expiringMaker 1700000000 "alice" "example.org" "secret" K' g'' rfl
    (by norm_num) (by simp [expiringMaker]) (.inr ⟨512, _, _, _, _, _, built'⟩) signed' (by decide)
  refine ⟨⟨K, g', built, ?_, ?_⟩, K', g'', built', ?_, ?_⟩
  -- each answer is the lifetime formula evaluated at the engine's time
  · rw [never]
    decide
  · rw [never]
    decide
  · rw [expiring]
    decide
  · rw [expiring]
    decide

end SealedMail
