import Mathlib
import SealedMail.Proofs.FreshKeys
import SealedMail.Proofs.KeyRoundTrip
import SealedMail.Proofs.Utf8Decoding


/-! # Generated keys

A key maker assembles a new key from fresh material: it certifies the user id and binds the
subkey with the primary material, validates the draft and locks every secret part under the
passphrase (`KeyMaker.assemble`). This module follows the assembly through. The signatures it
makes are their settings with values that fit the algorithm (`Signature.SignedFrom`), so they
read back; the locked key is the draft with its secret parts sealed (`KeyMaker.eq_sealedKey`),
so its secret key packets read back too. Once its self-signatures verify, a generated key is
locked, has the one user id and nothing wrong with it, signs with its primary key and encrypts
to its subkey, was created at the clock's time, expires after the lifetime, opens with the
passphrase, and its armored private form parses back as the key itself
(`generated_keys_well_formed`).

That the self-signatures verify is a hypothesis: it is the correctness of the signature
algorithms. `KeyMaker.signsVerifiably` checks it for given material, and on one RSA key built
from four primes the check runs (`sample_rsa_key_generated`).
-/

namespace SealedMail

/-! ## What signing makes -/

theorem Outcome.ok_of_mapError {ε : Type} {α : Type} {f : ε → EngineError} {x : Except ε α} {a : α}
    (h : x.mapError f = .ok a) : x = .ok a := by
  cases x with
  | error e => cases h
  | ok b => simpa [Except.mapError] using h

/-- An outcome that succeeded still succeeds once its error is renamed. -/
theorem Outcome.mapError_of_ok {ε α : Type} {f : ε → EngineError} {x : Except ε α} {a : α} (ok : x = .ok a) :
    x.mapError f = .ok a := by
  rw [ok]
  rfl

/-- A bound outcome whose first step succeeds continues with its result. -/
theorem Outcome.bind_of_ok {α β : Type} {r : Outcome α} {k : α → Outcome β} {a : α} (ok : r = .ok a) :
    r >>= k = k a := by
  rw [ok]
  rfl

/-- A signature as signing makes it from its settings: the settings, with the first two bytes
of a digest of at least two bytes and numbers that fit the algorithm. -/
def Signature.SignedFrom (config s : Signature) : Prop :=
  ∃ (digest : ByteArray) (vs : List Mpi), 2 ≤ digest.size ∧ Signature.ValuesFit config.algorithm vs ∧
    s = { config with prefix2 := digest.extract 0 2, values := vs }

/-- Signing with open material digests the data and the settings with a hash the engine
computes, signs the digest, and keeps the settings. -/
theorem Material.sign_eq_ok {m : Material} {config : Signature} {data : ByteArray} {s : Signature}
    (h : m.sign config data = .ok s) :
    ∃ values alg vs, m.secret = some (.plain values) ∧ config.hash.toAlgorithm? = some alg ∧
      m.key.signDigest values config.hash (alg.digest (data ++ config.digestSuffix)) = .ok vs ∧
      s = { config with prefix2 := (alg.digest (data ++ config.digestSuffix)).extract 0 2, values := vs } := by
  unfold Material.sign at h
  split at h
  · rename_i values alg secret found
    dsimp only at h
    split at h
    · rename_i vs signed
      exact ⟨values, alg, vs, secret, found, signed, (Except.ok.inj h).symm⟩
    · cases h
  · cases h

/-- Fresh signing material, in the clear, signs with an engine hash and its own algorithm as
signing makes signatures. -/
theorem FreshKey.Signing.signedFrom {f : FreshKey} (signing : f.Signing) {created : Nat} {config : Signature}
    {data : ByteArray} {s : Signature} {h : HashAlgorithm} (alg : config.algorithm = f.algorithm)
    (hash : config.hash = HashCode.ofAlgorithm h)
    (signed : (⟨f.keyPacket created, some (.plain f.secret), true⟩ : Material).sign config data = .ok s) :
    config.SignedFrom s := by
  obtain ⟨values, a, vs, secret, found, digest, rfl⟩ := Material.sign_eq_ok signed
  obtain rfl : f.secret = values := by simpa using secret
  rw [hash, HashCode.toAlgorithm?_ofAlgorithm, Option.some.injEq] at found
  subst found
  refine ⟨_, vs, ?_, ?_, rfl⟩
  · rw [HashAlgorithm.size_digest]
    cases h <;> decide
  · rw [alg]
    exact signing.signs created _ _ vs digest

/-! ## Subpackets as assembly writes them -/

namespace Subpacket

variable {e : ByteArray → Bool}

/-- A subpacket that reads back once written and takes at most 34 bytes. -/
structure Small (e : ByteArray → Bool) (p : Subpacket) : Prop where
  reads : Cursor.Reads (Cursor.subpacket e) p.write p
  short : p.write.size ≤ 34

theorem small_of_rereads {p : Subpacket} (data : p.data.Rereads e) (typ : p.data.typ < 128)
    (short : p.data.body.size ≤ 32) : p.Small e := by
  have four : Nat.pow 2 32 = 4294967296 := rfl
  refine ⟨Cursor.reads_subpacket data typ (by omega), ?_⟩
  -- a body this short has a one-byte length
  have length : (subpacketLength (p.data.body.size + 1)).size = 1 := by
    simp only [subpacketLength, if_pos (show p.data.body.size + 1 < 192 by omega)]
    rfl
  simp only [write, ByteArray.size_append, length]
  have : (ByteArray.mk #[(p.data.typ + if p.critical then 128 else 0).toUInt8]).size = 1 := rfl
  omega

theorem size_writeAll_le {ss : List Subpacket} (small : ∀ p ∈ ss, p.Small e) : (writeAll ss).size ≤ 34 * ss.length := by
  induction ss with
  | nil => simp [writeAll]
  | cons p rest ih =>
    rw [writeAll_cons, ByteArray.size_append, List.length_cons]
    have head := (small p List.mem_cons_self).short
    have tail := ih fun q member => small q (List.mem_cons_of_mem p member)
    omega

end Subpacket

/-- A signature made from settings whose fields have fixed codes and whose subpackets are few
and small reads back once written. -/
theorem Signature.SignedFrom.fits {e : ByteArray → Bool} {config s : Signature} (signed : config.SignedFrom s)
    (v4 : config.version = 4) (fixed : config.fixedCreated = none ∧ config.fixedIssuer = none)
    (algorithm : PublicKeyAlgorithm.ofNat config.algorithm.toNat.toUInt8.toNat = config.algorithm)
    (hash : HashCode.ofNat config.hash.toNat.toUInt8.toNat = config.hash)
    (hashed : ∀ p ∈ config.hashed, p.Small e) (unhashed : ∀ p ∈ config.unhashed, p.Small e)
    (few : config.hashed.length ≤ 16 ∧ config.unhashed.length ≤ 16) : s.Fits e := by
  obtain ⟨digest, vs, long, values, rfl⟩ := signed
  have hashedSize := Subpacket.size_writeAll_le hashed
  have unhashedSize := Subpacket.size_writeAll_le unhashed
  exact ⟨v4, fixed.1, fixed.2, algorithm, hash, fun p member => (hashed p member).reads,
    fun p member => (unhashed p member).reads, show (Subpacket.writeAll config.hashed).size < 65536 by omega,
    show (Subpacket.writeAll config.unhashed).size < 65536 by omega,
    by simp only [ByteArray.size_extract]; omega, values⟩

/-! ## Secret key packets as assembly writes them -/

theorem PublicKeyAlgorithm.secretCount_le {alg : PublicKeyAlgorithm} {n : Nat} (count : alg.secretCount? = some n) :
    n ≤ 4 := by
  cases alg <;> simp [PublicKeyAlgorithm.secretCount?] at count <;> omega

namespace SecretParams

/-- Locked numbers are an encrypted part with a SHA-1 check, an iterated and salted specifier
with an eight-byte salt and the coded count, a sixteen-byte vector, and the numbers with their
digest, encrypted. -/
theorem lock_eq (values : List Mpi) (p : String) (cipher : SymmetricAlgorithm) (hash : HashAlgorithm)
    (count : UInt8) (g : Entropy) :
    ∃ salt iv data, (lock values p cipher hash count g).1 =
      .encrypted 254 (CipherCode.ofAlgorithm cipher) (.iterated (HashCode.ofAlgorithm hash) salt count.toNat) iv data ∧
      salt.size = 8 ∧ iv.size = 16 ∧ data.size = (writeValues values).size + 20 := by
  rcases salted : g.bytes 8 with ⟨salt, g₁⟩
  rcases started : g₁.bytes 16 with ⟨iv, g₂⟩
  have salt8 : salt.size = 8 := by rw [← Entropy.size_bytes g 8, salted]
  have iv16 : iv.size = 16 := by rw [← Entropy.size_bytes g₁ 16, started]
  refine ⟨salt, iv, Aes.cfbEncrypt (Aes.expand (((StringToKey.iterated (HashCode.ofAlgorithm hash) salt
    count.toNat).derive? p.toUTF8 cipher.keySize).getD (Bytes.replicate cipher.keySize 0))) iv
      (writeValues values ++ Sha1.hash (writeValues values)), ?_, salt8, iv16, ?_⟩
  · simp only [lock, salted, started]
  · rw [Aes.size_cfbEncrypt, ByteArray.size_append, Sha1.size_hash]

/-- Locked numbers read back as the last part of a key packet, and take 49 bytes more than the
numbers. -/
theorem readsLast_lock (alg : PublicKeyAlgorithm) (values : List Mpi) (p : String) (cipher : SymmetricAlgorithm)
    (hash : HashAlgorithm) (count : UInt8) (g : Entropy) :
    Cursor.ReadsLast (Cursor.secretParams alg) (lock values p cipher hash count g).1.write
        (lock values p cipher hash count g).1 ∧
      (lock values p cipher hash count g).1.write.size = (writeValues values).size + 49 := by
  obtain ⟨salt, iv, data, locked, salt8, iv16, sized⟩ := lock_eq values p cipher hash count g
  rw [locked]
  refine ⟨Cursor.readsLast_encryptedSecret alg (.inl rfl) (CipherCode.ofNat_ofAlgorithm cipher)
    (Cursor.reads_iterated (HashCode.ofNat_ofAlgorithm hash) salt8 (UInt8.toNat_lt count)) rfl ?_, ?_⟩
  · rw [iv16]
    cases cipher <;> rfl
  · simp only [write, StringToKey.write, ByteArray.size_append, salt8, iv16, sized]
    have two : (ByteArray.mk #[(254 : Nat).toUInt8, (CipherCode.ofAlgorithm cipher).toNat.toUInt8]).size = 2 := rfl
    have head : (ByteArray.mk #[3, (HashCode.ofAlgorithm hash).toNat.toUInt8]).size = 2 := rfl
    have last : (ByteArray.mk #[count.toNat.toUInt8]).size = 1 := rfl
    omega

end SecretParams

/-- The secret key packet of fresh material with its numbers locked reads back once written,
as a primary key or as a subkey. -/
theorem FreshKey.Fits.rereads_secretKey {f : FreshKey} (fits : f.Fits) {created : Nat} (time : created < Nat.pow 2 32)
    {p : String} {config : EngineConfig} {ps : SecretParams}
    (sealed : SecretParams.SealedAs p config (some (.plain f.secret)) (some ps)) :
    (Packet.secretKey ⟨f.keyPacket created, ps⟩).Rereads ∧ (Packet.secretSubkey ⟨f.keyPacket created, ps⟩).Rereads := by
  obtain ⟨g, locked⟩ := sealed
  obtain rfl := Option.some.inj locked
  obtain ⟨read, size⟩ := SecretParams.readsLast_lock f.algorithm f.secret p config.cipher config.hash config.s2kCount g
  generalize (SecretParams.lock f.secret p config.cipher config.hash config.s2kCount g).1 = ps at read size ⊢
  have pub := Cursor.reads_keyPacket (k := f.keyPacket created) rfl rfl time fits.named fits.params
  refine Packet.rereads_secretKey (Cursor.readsLast_secretKeyPacket (k := ⟨f.keyPacket created, ps⟩) pub read) ?_
  -- a few thousand bytes at most: the public numbers and at most four secret ones
  have values := SecretParams.size_writeValues_le fits.secret.2
  have count := PublicKeyAlgorithm.secretCount_le fits.secret.1
  have params := fits.paramsShort
  have head : (ByteArray.mk #[(f.keyPacket created).version.toUInt8]).size = 1 := rfl
  have code : (ByteArray.mk #[(f.keyPacket created).algorithm.toNat.toUInt8]).size = 1 := rfl
  have four : Nat.pow 2 32 = 4294967296 := rfl
  have old : ¬ (f.keyPacket created).version < 4 := Nat.lt_irrefl 4
  simp only [SecretKeyPacket.body, KeyPacket.body, if_neg old, ByteArray.size_append, size, Bytes.u32,
    Bytes.size_ofNatBE, Header.maxBodyLength, four, head, code]
  change 1 + 4 + 1 + f.params.write.size + ((SecretParams.writeValues f.secret).size + 49) ≤ 4294967296 - 1
  omega

/-- Every self-signature of a key verifies: each signature over a user id certifies it, and
each signature over a subkey binds it, made by the primary key. -/
def Key.SelfSigned (k : Key) : Prop :=
  (∀ u ∈ k.users, ∀ s ∈ u.signatures, s.verifiesCertification k.primary 13 u.id = true) ∧
    ∀ sk ∈ k.subkeys, ∀ s ∈ sk.signatures, s.verifiesBinding k.primary sk.key = true

instance (k : Key) : Decidable k.SelfSigned := by
  unfold Key.SelfSigned
  infer_instance

/-- Self-signatures do not read the secret parts: a key that differs from a self-signed key
only in them is self-signed too. -/
theorem Key.SameButSecrets.selfSigned {k k' : Key} (same : k.SameButSecrets k') (signed : k.SelfSigned) :
    k'.SelfSigned := by
  obtain ⟨certified, bound⟩ := signed
  have erased := Key.map_erase_of_forall₂ same.subkeys
  rw [same.rest]
  refine ⟨certified, fun sk' member s signature => ?_⟩
  obtain ⟨sk, member', erase⟩ := List.mem_map.mp (erased ▸ List.mem_map_of_mem member)
  have key : sk'.key = sk.key := (congrArg Subkey.key erase).symm
  have signatures : sk'.signatures = sk.signatures := (congrArg Subkey.signatures erase).symm
  rw [key]
  exact bound sk member' s (signatures ▸ signature)

/-! ## Recorded creation times -/

namespace Calendar

/-- A recorded creation time fits the four bytes of an OpenPGP time. -/
theorem recordedTime_lt (t : Int) : recordedTime t < Nat.pow 2 32 := by
  unfold recordedTime
  split
  · decide
  · exact Nat.mod_lt _ (by decide)

/-- A reading from the epoch on that fits four bytes is recorded as it is. -/
theorem recordedTime_of_lt {t : Nat} (small : t < Nat.pow 2 32) : recordedTime t = t := by
  have dated : ¬ (t : Int) > maxSecond := by
    simp only [maxSecond, gt_iff_lt, not_lt]
    have : Nat.pow 2 32 = 4294967296 := rfl
    omega
  rw [recordedTime, if_neg dated, Int.toNat_natCast, Nat.mod_eq_of_lt small]

end Calendar

/-! ## Assembly -/

namespace KeyMaker

variable (km : KeyMaker)

/-- The hashed subpackets of the certification: the primary key's flags (certify, sign), then
the preferences, the primary user id mark and the features. -/
def certifiedSubpackets (fingerprint : ByteArray) : List Subpacket :=
  km.baseSubpackets fingerprint 0x03 ++
    [{ data := .preferredCiphers (ByteArray.mk #[9, 8, 7]) }, { data := .preferredHashes (ByteArray.mk #[8, 10]) },
      { data := .primaryUserId true }, { data := .features (ByteArray.mk #[1]) }]

/-- The settings of the certification of the user id by the primary key. -/
def certificationConfig (pk : KeyPacket) : Signature :=
  { typ := .certPositive, algorithm := pk.algorithm, hash := HashCode.ofAlgorithm km.config.hash,
    hashed := km.certifiedSubpackets pk.fingerprint, unhashed := [{ data := .issuer pk.keyId }],
    prefix2 := ByteArray.empty, values := [] }

/-- The settings of the binding of the subkey, with the encryption flags. -/
def bindingConfig (pk : KeyPacket) : Signature :=
  { typ := .subkeyBinding, algorithm := pk.algorithm, hash := HashCode.ofAlgorithm km.config.hash,
    hashed := km.baseSubpackets pk.fingerprint 0x0c, unhashed := [{ data := .issuer pk.keyId }],
    prefix2 := ByteArray.empty, values := [] }

/-- The key assembly makes, with its secret parts sealed as `ps` and `ss`: its user id certified,
its subkey bound and nothing wrong with it. -/
def sealedKey (userId : String) (primary subkey : FreshKey) (cert binding : Signature) (ps ss : SecretParams) : Key :=
  { primary := primary.keyPacket km.created, primarySecret := some ps, revocations := [], directSignatures := [],
    users := [⟨.new, userId.toUTF8, [cert]⟩], attributes := [],
    subkeys := [{ key := subkey.keyPacket km.created, secret := some ss, signatures := [binding], valid := true }],
    validUsers := [true] }

/-- The key assembly signs, before it validates and locks it. -/
def draft (userId : String) (primary subkey : FreshKey) (cert binding : Signature) : Key :=
  { primary := primary.keyPacket km.created, primarySecret := some (.plain primary.secret),
    revocations := [], directSignatures := [], users := [⟨.new, userId.toUTF8, [cert]⟩], attributes := [],
    subkeys := [{ key := subkey.keyPacket km.created, secret := some (.plain subkey.secret), signatures := [binding] }] }

variable {km} {userId passphrase : String} {primary subkey : FreshKey} {g g' : Entropy} {K : Key}

/-- Assembly certifies the user id and binds the subkey with the primary material, then locks
the validated key. -/
theorem assemble_eq_ok (h : km.assemble userId primary subkey passphrase g = .ok (K, g')) :
    ∃ cert binding,
      (⟨primary.keyPacket km.created, some (.plain primary.secret), true⟩ : Material).sign
        (km.certificationConfig (primary.keyPacket km.created))
        ((km.certificationConfig (primary.keyPacket km.created)).certifiedData (primary.keyPacket km.created) 13
          userId.toUTF8) = .ok cert ∧
      (⟨primary.keyPacket km.created, some (.plain primary.secret), true⟩ : Material).sign
        (km.bindingConfig (primary.keyPacket km.created))
        ((primary.keyPacket km.created).hashForm ++ (subkey.keyPacket km.created).hashForm) = .ok binding ∧
      (km.draft userId primary subkey cert binding).validate.lock passphrase km.config g = .ok (K, g') := by
  unfold assemble at h
  obtain ⟨cert, certified, rest⟩ := Outcome.bind_eq_ok h
  obtain ⟨binding, bound, locked⟩ := Outcome.bind_eq_ok rest
  exact ⟨cert, binding, Outcome.ok_of_mapError certified, Outcome.ok_of_mapError bound, locked⟩

/-- Once both self-signatures are made, assembly is the locking of the validated draft. -/
theorem assemble_of_signed {cert binding : Signature}
    (certified : (⟨primary.keyPacket km.created, some (.plain primary.secret), true⟩ : Material).sign
        (km.certificationConfig (primary.keyPacket km.created))
        ((km.certificationConfig (primary.keyPacket km.created)).certifiedData (primary.keyPacket km.created) 13
          userId.toUTF8) = .ok cert)
    (bound : (⟨primary.keyPacket km.created, some (.plain primary.secret), true⟩ : Material).sign
        (km.bindingConfig (primary.keyPacket km.created))
        ((primary.keyPacket km.created).hashForm ++ (subkey.keyPacket km.created).hashForm) = .ok binding) :
    km.assemble userId primary subkey passphrase g =
      (km.draft userId primary subkey cert binding).validate.lock passphrase km.config g := by
  unfold assemble
  exact (Outcome.bind_of_ok (Outcome.mapError_of_ok certified)).trans
    ((Outcome.bind_of_ok (Outcome.mapError_of_ok bound)).trans rfl)

/-- The draft, validated, holds every secret part in the clear. -/
theorem draft_validate_state (cert binding : Signature) :
    (km.draft userId primary subkey cert binding).validate.state = .unlocked := rfl

/-- The validated draft, locked, is the key assembly makes once its self-signatures verify: each
secret part is sealed from its numbers in the clear. -/
theorem eq_sealedKey {cert binding : Signature}
    (r : (km.draft userId primary subkey cert binding).validate.Relocked passphrase km.config K)
    (signed : K.SelfSigned) (certifies : cert.isCertification = true) (binds : binding.typ = .subkeyBinding) :
    ∃ ps ss, K = km.sealedKey userId primary subkey cert binding ps ss ∧
      SecretParams.SealedAs passphrase km.config (some (.plain primary.secret)) (some ps) ∧
      SecretParams.SealedAs passphrase km.config (some (.plain subkey.secret)) (some ss) := by
  obtain ⟨rest, primarySealed, subkeysSealed⟩ := r
  rcases K with ⟨pk, ps, revocations, direct, users, attributes, subkeys, validUsers, revoked, issues⟩
  simp only [Key.validate, draft, Key.mk.injEq] at rest
  obtain ⟨rfl, -, rfl, rfl, rfl, rfl, -, rfl, rfl, rfl⟩ := rest
  -- the one subkey is sealed from the validated one
  change List.Forall₂ _ [_] subkeys at subkeysSealed
  obtain ⟨s', rest, ⟨same, subkeySealed⟩, none, rfl⟩ := List.forall₂_cons_left_iff.mp subkeysSealed
  obtain rfl := List.forall₂_nil_left_iff.mp none
  change SecretParams.SealedAs passphrase km.config (some (.plain subkey.secret)) s'.secret at subkeySealed
  change SecretParams.SealedAs passphrase km.config (some (.plain primary.secret)) ps at primarySealed
  obtain ⟨g₁, rfl⟩ := primarySealed
  obtain ⟨g₂, sealedSecret⟩ := subkeySealed
  -- the self-signatures verify, so validation finds nothing wrong
  obtain ⟨certifications, bindings⟩ := signed
  have certified := certifications _ List.mem_cons_self cert List.mem_cons_self
  have bound := bindings s' List.mem_cons_self binding (by rw [same]; exact List.mem_cons_self)
  rw [same] at bound
  refine ⟨_, _, ?_, ⟨g₁, rfl⟩, ⟨g₂, rfl⟩⟩
  rw [same, sealedSecret]
  simp_all [sealedKey, draft]

/-! ## The self-signatures read back -/

theorem created_lt (km : KeyMaker) : km.created < Nat.pow 2 32 := Calendar.recordedTime_lt km.now

/-- A key maker whose clock reads a time from the epoch on that fits four bytes stamps its keys
with that time. -/
theorem created_of_clock {c : Nat} (clock : km.now = c) (small : c < 2 ^ 32) :
    km.created = c := by
  rw [created, clock]
  exact Calendar.recordedTime_of_lt small

variable {e : ByteArray → Bool}

theorem length_baseSubpackets_le (fp : ByteArray) (flags : UInt8) : (km.baseSubpackets fp flags).length ≤ 4 := by
  unfold baseSubpackets
  split <;> simp

/-- The subpackets every self-signature starts with read back, when the lifetime fits four bytes. -/
theorem baseSubpackets_small (life : ∀ L ∈ km.lifetime, L < Nat.pow 2 32) {fp : ByteArray} (twenty : fp.size = 20)
    (flags : UInt8) : ∀ p ∈ km.baseSubpackets fp flags, p.Small e := by
  intro p member
  simp only [baseSubpackets, List.mem_append, List.mem_cons, List.not_mem_nil, or_false] at member
  rcases member with (rfl | rfl | rfl) | expiry
  · exact Subpacket.small_of_rereads (SubpacketData.rereads_time km.created_lt).1 (show 2 < 128 by decide)
      (by simp [SubpacketData.body, Bytes.u32])
  · exact Subpacket.small_of_rereads (SubpacketData.rereads_issuerFingerprint (by decide) fp) (show 33 < 128 by decide)
      (by simp [SubpacketData.body, twenty])
  · exact Subpacket.small_of_rereads (SubpacketData.rereads_rest (ByteArray.mk #[flags]) _ (by simp))
      (show 27 < 128 by decide) (show 1 ≤ 32 by decide)
  · cases lifetime : km.lifetime with
    | none =>
      rw [lifetime] at expiry
      cases expiry
    | some L =>
      rw [lifetime, List.mem_singleton] at expiry
      subst expiry
      exact Subpacket.small_of_rereads (SubpacketData.rereads_time (life L lifetime)).2.2 (show 9 < 128 by decide)
        (by simp [SubpacketData.body, Bytes.u32])

theorem certifiedSubpackets_small (life : ∀ L ∈ km.lifetime, L < Nat.pow 2 32) {fp : ByteArray}
    (twenty : fp.size = 20) : ∀ p ∈ km.certifiedSubpackets fp, p.Small e := by
  intro p member
  rcases List.mem_append.mp member with base | preferences
  · exact km.baseSubpackets_small life twenty 3 p base
  simp only [List.mem_cons, List.not_mem_nil, or_false] at preferences
  rcases preferences with rfl | rfl | rfl | rfl
  · exact Subpacket.small_of_rereads (SubpacketData.rereads_rest (ByteArray.mk #[9, 8, 7]) _ (by simp))
      (show 11 < 128 by decide) (show 3 ≤ 32 by decide)
  · exact Subpacket.small_of_rereads (SubpacketData.rereads_rest (ByteArray.mk #[8, 10]) _ (by simp))
      (show 21 < 128 by decide) (show 2 ≤ 32 by decide)
  · exact Subpacket.small_of_rereads (SubpacketData.rereads_flag true).2.2 (show 25 < 128 by decide)
      (show 1 ≤ 32 by decide)
  · exact Subpacket.small_of_rereads (SubpacketData.rereads_rest (ByteArray.mk #[1]) _ (by simp))
      (show 30 < 128 by decide) (show 1 ≤ 32 by decide)

theorem issuer_small (pk : KeyPacket) : ∀ p ∈ [({ data := .issuer pk.keyId } : Subpacket)], p.Small e := by
  intro p member
  rw [List.mem_singleton] at member
  subst member
  exact Subpacket.small_of_rereads (SubpacketData.rereads_issuer (KeyPacket.size_keyId pk)) (show 16 < 128 by decide)
    (by simp [SubpacketData.body, KeyPacket.size_keyId])

theorem KeyPacket.size_fingerprint (k : KeyPacket) : k.fingerprint.size = 20 := Sha1.size_hash _

/-- The certification assembly makes reads back once written. -/
theorem certification_fits (life : ∀ L ∈ km.lifetime, L < Nat.pow 2 32) {pk : KeyPacket} {cert : Signature}
    (named : PublicKeyAlgorithm.ofNat pk.algorithm.toNat.toUInt8.toNat = pk.algorithm)
    (signed : (km.certificationConfig pk).SignedFrom cert) : cert.Fits e := by
  have few := km.length_baseSubpackets_le pk.fingerprint 3
  refine signed.fits rfl ⟨rfl, rfl⟩ named (HashCode.ofNat_ofAlgorithm _)
    (km.certifiedSubpackets_small life (KeyPacket.size_fingerprint pk)) (issuer_small pk) ⟨?_, by simp [certificationConfig]⟩
  simp only [certificationConfig, certifiedSubpackets, List.length_append, List.length_cons, List.length_nil]
  omega

/-- The subkey binding assembly makes reads back once written. -/
theorem binding_fits (life : ∀ L ∈ km.lifetime, L < Nat.pow 2 32) {pk : KeyPacket} {binding : Signature}
    (named : PublicKeyAlgorithm.ofNat pk.algorithm.toNat.toUInt8.toNat = pk.algorithm)
    (signed : (km.bindingConfig pk).SignedFrom binding) : binding.Fits e := by
  have few := km.length_baseSubpackets_le pk.fingerprint 0x0c
  exact signed.fits rfl ⟨rfl, rfl⟩ named (HashCode.ofNat_ofAlgorithm _)
    (km.baseSubpackets_small life (KeyPacket.size_fingerprint pk) 0x0c) (issuer_small pk)
    ⟨by simp only [bindingConfig]; omega, by simp [bindingConfig]⟩

/-! ## What the self-signatures say -/

variable {pk : KeyPacket} {cert binding : Signature}

/-- The certification is a certification, lets the primary key sign, and gives the key the
lifetime of assembly. -/
theorem certification_says (signed : (km.certificationConfig pk).SignedFrom cert) :
    cert.isCertification = true ∧ allowsSigning cert = true ∧ cert.keyExpiration? = km.lifetime := by
  obtain ⟨digest, vs, -, -, rfl⟩ := signed
  -- the flags byte is the third subpacket, whatever the lifetime
  have flags : allowsSigning { km.certificationConfig pk with prefix2 := digest.extract 0 2, values := vs } = true := by
    simp only [allowsSigning, Signature.keyFlags, certificationConfig, certifiedSubpackets, baseSubpackets,
      List.cons_append, List.findSome?_cons]
    decide
  refine ⟨rfl, flags, ?_⟩
  cases lifetime : km.lifetime <;>
    simp [Signature.keyExpiration?, certificationConfig, certifiedSubpackets, baseSubpackets, lifetime]

/-- The binding is a subkey binding and lets the subkey encrypt. -/
theorem binding_says (signed : (km.bindingConfig pk).SignedFrom binding) :
    binding.typ = .subkeyBinding ∧ allowsEncryption binding = true := by
  obtain ⟨digest, vs, -, -, rfl⟩ := signed
  refine ⟨rfl, ?_⟩
  simp only [allowsEncryption, Signature.keyFlags, bindingConfig, baseSubpackets, List.cons_append, List.findSome?_cons]
  decide

/-- A lifetime, written as the key's expiration, expires the key that long after its creation;
none, or zero, never. -/
theorem expiryAfter_of_lifetime (created : Nat) (expires : cert.keyExpiration? = km.lifetime) :
    expiryAfter created cert =
      if 0 < km.lifetime.getD 0 then some (created + km.lifetime.getD 0) else none := by
  unfold expiryAfter
  rw [expires]
  cases km.lifetime <;> rfl

/-! ## The key assembly makes -/

variable {userId : String} {primary subkey : FreshKey} {ps ss : SecretParams}

theorem sealedKey_userIds : (km.sealedKey userId primary subkey cert binding ps ss).userIds = [userId] := by
  simp only [Key.userIds, sealedKey, List.map_cons, List.map_nil, Utf8.decodeLossy_toUTF8]

theorem sealedKey_primarySelfSignature (certifies : cert.isCertification = true) :
    (km.sealedKey userId primary subkey cert binding ps ss).primarySelfSignature = some cert := by
  simp [Key.primarySelfSignature, sealedKey, certifies, lastMaxBy]

/-- The key signs with its primary key, which its certification lets sign. -/
theorem sealedKey_signingKey (certifies : cert.isCertification = true) (signs : allowsSigning cert = true)
    (canSign : primary.algorithm.canSign = true) :
    (km.sealedKey userId primary subkey cert binding ps ss).signingKey =
      some (km.sealedKey userId primary subkey cert binding ps ss).primaryMaterial := by
  rw [Key.signingKey, sealedKey_primarySelfSignature certifies]
  simp [signs, Material.canSign, Key.primaryMaterial, sealedKey, FreshKey.keyPacket, canSign]

/-- With time checks skipped, the key encrypts to its subkey, which its binding lets encrypt. -/
theorem sealedKey_encryptionKey (binds : binding.typ = .subkeyBinding) (encrypts : allowsEncryption binding = true)
    (canEncrypt : subkey.algorithm.canEncrypt = true) :
    (km.sealedKey userId primary subkey cert binding ps ss).encryptionKey 0 =
      some ⟨subkey.keyPacket km.created, some ss, false⟩ := by
  simp [Key.encryptionKey, sealedKey, Subkey.binding, binds, encrypts, lastMaxBy, Subkey.material,
    Material.canEncrypt, canEncrypt, FreshKey.keyPacket]

theorem sealedKey_expirationTime (certifies : cert.isCertification = true) :
    (km.sealedKey userId primary subkey cert binding ps ss).expirationTime = expiryAfter km.created cert := by
  rw [Key.expirationTime, sealedKey_primarySelfSignature certifies]
  rfl

/-- Validation finds what it found before: the certification and the binding verify. -/
theorem sealedKey_validate
    (certified : cert.verifiesCertification (primary.keyPacket km.created) 13 userId.toUTF8 = true)
    (certifies : cert.isCertification = true)
    (bound : binding.verifiesBinding (primary.keyPacket km.created) (subkey.keyPacket km.created) = true)
    (binds : binding.typ = .subkeyBinding) :
    (km.sealedKey userId primary subkey cert binding ps ss).validate = km.sealedKey userId primary subkey cert binding ps ss := by
  rw [String.toUTF8_eq_toByteArray] at certified
  simp [Key.validate, sealedKey, certified, certifies, bound, binds]

/-- The sealed key, once its self-signatures verify, is as reading keeps keys. -/
theorem sealedKey_settled (signed : (km.sealedKey userId primary subkey cert binding ps ss).SelfSigned)
    (certifies : cert.isCertification = true) (binds : binding.typ = .subkeyBinding) :
    (km.sealedKey userId primary subkey cert binding ps ss).Settled := by
  obtain ⟨certifications, bindings⟩ := signed
  have certified := certifications _ List.mem_cons_self cert List.mem_cons_self
  have bound := bindings _ List.mem_cons_self binding List.mem_cons_self
  have signedUser : ∀ u ∈ (km.sealedKey userId primary subkey cert binding ps ss).users, u.signatures ≠ [] := by
    intro u member
    rw [List.mem_singleton.mp member]
    exact List.cons_ne_nil _ _
  exact ⟨sealedKey_validate certified certifies bound binds, fun _ none => absurd none List.not_mem_nil,
    fun _ none => absurd none List.not_mem_nil, signedUser, fun _ none => absurd none List.not_mem_nil, rfl⟩

theorem sealedKey_packets : (km.sealedKey userId primary subkey cert binding ps ss).packets true =
    [.secretKey ⟨primary.keyPacket km.created, ps⟩, .userId .new userId.toUTF8, .signature cert,
      .secretSubkey ⟨subkey.keyPacket km.created, ss⟩, .signature binding] := rfl

/-- The numbers of fresh material read back from their written form, in the draft. -/
theorem draft_validate_readBack (signing : primary.Fits) (encrypting : subkey.Fits) :
    (km.draft userId primary subkey cert binding).validate.SecretsReadBack := by
  intro m member values secret
  simp only [Key.validate, draft, Key.materials, Key.primaryMaterial, List.map_cons, List.map_nil,
    List.mem_cons, List.not_mem_nil, or_false] at member
  rcases member with rfl | rfl
  · obtain rfl : primary.secret = values := by simpa using secret
    exact SecretParams.readValues_writeValues signing.secret
  · obtain rfl : subkey.secret = values := by simpa [Subkey.material] using secret
    exact SecretParams.readValues_writeValues encrypting.secret

end KeyMaker

theorem Key.armorPrivate_of_private {k : Key} (priv : k.isPrivate = true) :
    k.armorPrivate = .ok (Armor.write .privateKey [] (k.write true)) := by
  simp [Key.armorPrivate, Key.secretBytes_of_private priv, Except.map]

/-- A key whose only key ring is itself parses as that key. -/
theorem Key.parse_of_ring {data : ByteArray} {k : Key} (h : KeyRing.parse data = .ok ⟨[k]⟩) :
    Key.parse data = .ok k := by
  simp [Key.parse, h, bind, Except.bind, pure, Except.pure]

/-- What a generated key is, for its user id, creation time, lifetime and passphrase: locked,
with that one user id and nothing wrong with it, encrypting to its one subkey and signing with
its primary key, created then, expiring that long after when it has a lifetime, and opened by
the passphrase to an unlocked key with the same public half. -/
structure Key.Generated (K : Key) (userId : String) (time lifetime : Nat) (passphrase : String) : Prop where
  locked : K.state = .locked
  userIds : K.userIds = [userId]
  issues : K.issues = []
  encryption : ∃ s, K.subkeys = [s] ∧ K.encryptionKey 0 = some s.material
  signing : K.signingKey = some K.primaryMaterial
  created : K.primary.created = time
  expiry : K.expirationTime = if 0 < lifetime then some (time + lifetime) else none
  opens : ∃ k, K.unlock passphrase = .ok k ∧ k.state = .unlocked ∧ k.toPublic = K.toPublic

namespace KeyMaker

variable {km : KeyMaker} {userId passphrase : String} {primary subkey : FreshKey} {g g' : Entropy} {K : Key}

/-- Assembled from material that signs and material that encrypts, a key whose self-signatures
verify is a generated key, and its armored private form parses back as itself when its user id
fits a packet. -/
theorem assemble_generated (signing : primary.Signing) (encrypting : subkey.Encrypting)
    (life : ∀ L ∈ km.lifetime, L < Nat.pow 2 32)
    (h : km.assemble userId primary subkey passphrase g = .ok (K, g')) (signed : K.SelfSigned) :
    K.Generated userId km.created (km.lifetime.getD 0) passphrase ∧
      (userId.toUTF8.size ≤ Header.maxBodyLength →
        K.armorPrivate = .ok (Armor.write .privateKey [] (K.write true)) ∧
        Key.parse (Armor.write .privateKey [] (K.write true)).toUTF8 = .ok K) := by
  obtain ⟨cert, binding, certSigned, bindSigned, locked⟩ := assemble_eq_ok h
  have certFrom := signing.signedFrom rfl rfl certSigned
  have bindFrom := signing.signedFrom rfl rfl bindSigned
  obtain ⟨certifies, signs, expires⟩ := km.certification_says certFrom
  obtain ⟨binds, encrypts⟩ := km.binding_says bindFrom
  -- locking the validated draft succeeds, and it is what assembly returned
  obtain ⟨L, g'', relocked, r⟩ := Key.lock_of_unlocked (draft_validate_state cert binding) passphrase km.config g
  rw [locked, Except.ok.injEq, Prod.mk.injEq] at relocked
  obtain ⟨rfl, -⟩ := relocked
  have priv : (km.draft userId primary subkey cert binding).validate.isPrivate = true := rfl
  have opened := r.unlock priv (draft_validate_readBack signing.fits encrypting.fits)
  have relockedState := r.state priv
  have samePublic := r.toPublic_eq
  obtain ⟨ps, ss, rfl, primarySealed, subkeySealed⟩ := eq_sealedKey r signed certifies binds
  refine ⟨⟨relockedState, sealedKey_userIds, rfl, ⟨_, rfl, sealedKey_encryptionKey binds encrypts encrypting.canEncrypt⟩,
    sealedKey_signingKey certifies signs signing.canSign, rfl, ?_, ⟨_, opened, draft_validate_state cert binding,
      samePublic.symm⟩⟩, fun short => ?_⟩
  · rw [sealedKey_expirationTime certifies, expiryAfter_of_lifetime _ expires]
  -- the key is settled, and each of its packets reads back
  have settled := sealedKey_settled signed certifies binds
  have back : ∀ p ∈ (km.sealedKey userId primary subkey cert binding ps ss).packets true, p.Rereads := by
    rw [sealedKey_packets]
    simp only [List.mem_cons, List.not_mem_nil, or_false]
    rintro p (rfl | rfl | rfl | rfl | rfl)
    · exact (signing.fits.rereads_secretKey km.created_lt primarySealed).1
    · exact Packet.rereads_userId .new short
    · exact Packet.rereads_signature (km.certification_fits life signing.fits.named certFrom)
    · exact (encrypting.fits.rereads_secretKey km.created_lt subkeySealed).2
    · exact Packet.rereads_signature (km.binding_fits life signing.fits.named bindFrom)
  obtain ⟨-, parsed⟩ := KeyRing.parse_armoredPrivate [_] (List.cons_ne_nil _ _)
    (fun k member => by rw [List.mem_singleton.mp member]; exact settled)
    (fun k member => by rw [List.mem_singleton.mp member]; rfl)
    (fun k member => by rw [List.mem_singleton.mp member]; exact back)
  refine ⟨Key.armorPrivate_of_private (by rfl), Key.parse_of_ring ?_⟩
  simpa using parsed

/-! ## Material that signs verifiably -/

variable (km) in
/-- Whether fresh material makes both self-signatures of assembly so that each verifies: a check
that runs on given material. -/
def signsVerifiably (userId : String) (primary subkey : FreshKey) : Bool :=
  let pk := primary.keyPacket km.created
  let m : Material := ⟨pk, some (.plain primary.secret), true⟩
  match m.sign (km.certificationConfig pk) ((km.certificationConfig pk).certifiedData pk 13 userId.toUTF8),
      m.sign (km.bindingConfig pk) (pk.hashForm ++ (subkey.keyPacket km.created).hashForm) with
  | .ok cert, .ok binding => decide (km.draft userId primary subkey cert binding).validate.SelfSigned
  | _, _ => false

/-- Material that signs verifiably is assembled into a key, under any passphrase and entropy, and
the key is self-signed. -/
theorem assemble_of_signsVerifiably (verifies : km.signsVerifiably userId primary subkey = true)
    (passphrase : String) (g : Entropy) :
    ∃ K g', km.assemble userId primary subkey passphrase g = .ok (K, g') ∧ K.SelfSigned := by
  unfold signsVerifiably at verifies
  dsimp only at verifies
  split at verifies
  case h_2 => cases verifies
  rename_i cert binding certified bound
  -- locking the validated draft succeeds, and only the secret parts change
  obtain ⟨K, g', locked, r⟩ := Key.lock_of_unlocked (draft_validate_state cert binding) passphrase km.config g
  exact ⟨K, g', (assemble_of_signed certified bound).trans locked, r.sameButSecrets.selfSigned (of_decide_eq_true verifies)⟩

variable (km) in
/-- Whether four primes pass the RSA checks and give material that signs verifiably. -/
def primesSignVerifiably (bits : Nat) (p₁ p₂ p₃ p₄ : ByteArray) (userId : String) : Bool :=
  match rsaOfPrimes bits (Bytes.toNatBE p₁) (Bytes.toNatBE p₂), rsaOfPrimes bits (Bytes.toNatBE p₃) (Bytes.toNatBE p₄) with
  | .ok primary, .ok subkey => km.signsVerifiably userId primary subkey
  | _, _ => false

/-- Four primes whose material signs verifiably build a self-signed key. -/
theorem fromPrimes_of_primesSignVerifiably {name domain : String} {bits : Nat} {p₁ p₂ p₃ p₄ : ByteArray}
    (verifies : km.primesSignVerifiably bits p₁ p₂ p₃ p₄ (userIdOf name domain) = true) (passphrase : String) (g : Entropy) :
    ∃ K g', km.fromPrimes name domain passphrase bits p₁ p₂ p₃ p₄ g = .ok (K, g') ∧ K.SelfSigned := by
  unfold primesSignVerifiably at verifies
  split at verifies
  case h_2 => cases verifies
  rename_i primary subkey first second
  obtain ⟨K, g', assembled, signed⟩ := assemble_of_signsVerifiably verifies passphrase g
  refine ⟨K, g', ?_, signed⟩
  unfold fromPrimes
  rw [Outcome.bind_of_ok first, Outcome.bind_of_ok second]
  exact assembled

/-! ## The check of given primes, one self-signature at a time

Each self-signature takes hashing and an exponentiation to make and again to verify; checked
apart, each half of the check of given primes evaluates with half the work held at once. -/

/-- Material signs verifiably once each of its two self-signatures is made and verifies. -/
theorem signsVerifiably_of_verifies {cert binding : Signature}
    (certified : (⟨primary.keyPacket km.created, some (.plain primary.secret), true⟩ : Material).sign
        (km.certificationConfig (primary.keyPacket km.created))
        ((km.certificationConfig (primary.keyPacket km.created)).certifiedData (primary.keyPacket km.created) 13
          userId.toUTF8) = .ok cert)
    (bound : (⟨primary.keyPacket km.created, some (.plain primary.secret), true⟩ : Material).sign
        (km.bindingConfig (primary.keyPacket km.created))
        ((primary.keyPacket km.created).hashForm ++ (subkey.keyPacket km.created).hashForm) = .ok binding)
    (certifies : cert.verifiesCertification (primary.keyPacket km.created) 13 userId.toUTF8 = true)
    (binds : binding.verifiesBinding (primary.keyPacket km.created) (subkey.keyPacket km.created) = true) :
    km.signsVerifiably userId primary subkey = true := by
  unfold signsVerifiably
  dsimp only
  rw [certified, bound]
  refine decide_eq_true ⟨?_, ?_⟩
  · simpa [Key.validate, draft] using certifies
  · simpa [Key.validate, draft] using binds

variable (km) in
/-- Whether two primes pass the RSA checks and give material whose certification of a user id
verifies: the first half of `primesSignVerifiably`. -/
def primesCertifyVerifiably (bits : Nat) (p₁ p₂ : ByteArray) (userId : String) : Bool :=
  match rsaOfPrimes bits (Bytes.toNatBE p₁) (Bytes.toNatBE p₂) with
  | .ok primary =>
    let pk := primary.keyPacket km.created
    match (⟨pk, some (.plain primary.secret), true⟩ : Material).sign (km.certificationConfig pk)
        ((km.certificationConfig pk).certifiedData pk 13 userId.toUTF8) with
    | .ok cert => cert.verifiesCertification pk 13 userId.toUTF8
    | .error _ => false
  | .error _ => false

variable (km) in
/-- Whether four primes pass the RSA checks and give material whose binding of the subkey
verifies: the second half of `primesSignVerifiably`. -/
def primesBindVerifiably (bits : Nat) (p₁ p₂ p₃ p₄ : ByteArray) : Bool :=
  match rsaOfPrimes bits (Bytes.toNatBE p₁) (Bytes.toNatBE p₂), rsaOfPrimes bits (Bytes.toNatBE p₃) (Bytes.toNatBE p₄) with
  | .ok primary, .ok subkey =>
    let pk := primary.keyPacket km.created
    match (⟨pk, some (.plain primary.secret), true⟩ : Material).sign (km.bindingConfig pk)
        (pk.hashForm ++ (subkey.keyPacket km.created).hashForm) with
    | .ok binding => binding.verifiesBinding pk (subkey.keyPacket km.created)
    | .error _ => false
  | _, _ => false

/-- Four primes sign verifiably once both halves of the check pass. -/
theorem primesSignVerifiably_of_halves {bits : Nat} {p₁ p₂ p₃ p₄ : ByteArray}
    (certifies : km.primesCertifyVerifiably bits p₁ p₂ userId = true)
    (binds : km.primesBindVerifiably bits p₁ p₂ p₃ p₄ = true) :
    km.primesSignVerifiably bits p₁ p₂ p₃ p₄ userId = true := by
  unfold primesCertifyVerifiably at certifies
  unfold primesBindVerifiably at binds
  unfold primesSignVerifiably
  split at binds
  case h_2 => cases binds
  rename_i primary subkey first second
  rw [first] at certifies
  dsimp only at certifies binds ⊢
  split at certifies
  case h_2 => cases certifies
  split at binds
  case h_2 => cases binds
  rename_i _ cert certified _ binding bound
  exact signsVerifiably_of_verifies certified bound certifies binds

end KeyMaker

/-- Generated keys are well formed. A key made with the `x25519` or the `rsa` kind, or built
from four primes, by a key maker whose clock reads a time that fits four bytes and whose
lifetime, if any, fits four bytes too, is locked, has the one user id of the name at the domain
and nothing wrong with it, encrypts to its subkey and signs with its primary key, was created at
that time, expires after the lifetime exactly when the lifetime is positive, and opens with the
passphrase, as long as its self-signatures verify. Its armored private form parses back as the
key itself, so the same holds of what is read back, when the user id fits a packet. -/
theorem generated_keys_well_formed (km : KeyMaker) (c : Nat) (name domain passphrase : String) (K : Key)
    (g' : Entropy) (clock : km.now = c) (small : c < 2 ^ 32) (life : ∀ L ∈ km.lifetime, L < 2 ^ 32)
    (made : (∃ kind bits g, km.generate name domain passphrase kind bits g = .ok (K, g')) ∨
      ∃ bits p₁ p₂ p₃ p₄ g, km.fromPrimes name domain passphrase bits p₁ p₂ p₃ p₄ g = .ok (K, g'))
    (signed : K.SelfSigned) :
    K.Generated (userIdOf name domain) c (km.lifetime.getD 0) passphrase ∧
      ((userIdOf name domain).toUTF8.size ≤ Header.maxBodyLength →
        ∃ text, K.armorPrivate = .ok text ∧ Key.parse text.toUTF8 = .ok K) := by
  have four : Nat.pow 2 32 = 2 ^ 32 := rfl
  have created : km.created = c := KeyMaker.created_of_clock clock small
  obtain ⟨primary, subkey, g, signing, encrypting, assembled⟩ : ∃ primary subkey g, primary.Signing ∧
      subkey.Encrypting ∧ km.assemble (userIdOf name domain) primary subkey passphrase g = .ok (K, g') := by
    rcases made with ⟨kind, bits, g, generated⟩ | ⟨bits, p₁, p₂, p₃, p₄, g, built⟩
    · exact KeyMaker.generate_eq_ok generated
    · obtain ⟨primary, subkey, signing, encrypting, assembled⟩ := KeyMaker.fromPrimes_eq_ok built
      exact ⟨primary, subkey, g, signing, encrypting, assembled⟩
  obtain ⟨generated, armored⟩ :=
    KeyMaker.assemble_generated signing encrypting (by rw [four]; exact life) assembled signed
  rw [created] at generated
  exact ⟨generated, fun short => ⟨_, (armored short).1, (armored short).2⟩⟩

/-- A key maker of the default settings whose clock reads 1700000000 and whose keys do not expire. -/
def sampleMaker : KeyMaker := { config := {}, now := 1700000000 }

/-- The self-signatures made with the sample maker from four 256-bit primes verify: the kernel
makes and checks the certification, then the binding. -/
theorem sampleMaker_signs : sampleMaker.primesSignVerifiably 512
    (Bytes.ofNatBE 0xf774eb5248db40af72158370d269a9a5ae658f33fe3b890b93f448b3a5aa3c81 32)
    (Bytes.ofNatBE 0xde7d6b377936d536243d35702c1eea1f265974a7cc966f46c6aa7d550101b811 32)
    (Bytes.ofNatBE 0xc2b38755cd37880e16ac4191a26aa0ae044f1574f037afc644d82a531289bafb 32)
    (Bytes.ofNatBE 0xcf28f65e408fc146794ec926bc9e28eabee8062610e8ad0186a74a63a8c7d9e1 32)
    (userIdOf "alice" "example.org") = true :=
  KeyMaker.primesSignVerifiably_of_halves (by decide +kernel) (by decide +kernel)

/-- The sample maker builds a self-signed key of alice from four 256-bit primes. -/
theorem sampleMaker_builds :
    ∃ K g', sampleMaker.fromPrimes "alice" "example.org" "secret" 512
        (Bytes.ofNatBE 0xf774eb5248db40af72158370d269a9a5ae658f33fe3b890b93f448b3a5aa3c81 32)
        (Bytes.ofNatBE 0xde7d6b377936d536243d35702c1eea1f265974a7cc966f46c6aa7d550101b811 32)
        (Bytes.ofNatBE 0xc2b38755cd37880e16ac4191a26aa0ae044f1574f037afc644d82a531289bafb 32)
        (Bytes.ofNatBE 0xcf28f65e408fc146794ec926bc9e28eabee8062610e8ad0186a74a63a8c7d9e1 32)
        (Entropy.ofSeed (ByteArray.mk #[1, 2, 3])) = .ok (K, g') ∧ K.SelfSigned :=
  KeyMaker.fromPrimes_of_primesSignVerifiably sampleMaker_signs "secret" (Entropy.ofSeed (ByteArray.mk #[1, 2, 3]))

/-- A key maker like the sample one whose keys expire 1000 seconds after their creation. -/
def expiringMaker : KeyMaker := { sampleMaker with lifetime := some 1000 }

/-- The self-signatures the expiring maker makes from the same four primes verify too: its
certification and binding carry a key expiration subpacket. -/
theorem expiringMaker_signs : expiringMaker.primesSignVerifiably 512
    (Bytes.ofNatBE 0xf774eb5248db40af72158370d269a9a5ae658f33fe3b890b93f448b3a5aa3c81 32)
    (Bytes.ofNatBE 0xde7d6b377936d536243d35702c1eea1f265974a7cc966f46c6aa7d550101b811 32)
    (Bytes.ofNatBE 0xc2b38755cd37880e16ac4191a26aa0ae044f1574f037afc644d82a531289bafb 32)
    (Bytes.ofNatBE 0xcf28f65e408fc146794ec926bc9e28eabee8062610e8ad0186a74a63a8c7d9e1 32)
    (userIdOf "alice" "example.org") = true :=
  KeyMaker.primesSignVerifiably_of_halves (by decide +kernel) (by decide +kernel)

/-- The expiring maker builds a self-signed key of alice from the same four primes. -/
theorem expiringMaker_builds :
    ∃ K g', expiringMaker.fromPrimes "alice" "example.org" "secret" 512
        (Bytes.ofNatBE 0xf774eb5248db40af72158370d269a9a5ae658f33fe3b890b93f448b3a5aa3c81 32)
        (Bytes.ofNatBE 0xde7d6b377936d536243d35702c1eea1f265974a7cc966f46c6aa7d550101b811 32)
        (Bytes.ofNatBE 0xc2b38755cd37880e16ac4191a26aa0ae044f1574f037afc644d82a531289bafb 32)
        (Bytes.ofNatBE 0xcf28f65e408fc146794ec926bc9e28eabee8062610e8ad0186a74a63a8c7d9e1 32)
        (Entropy.ofSeed (ByteArray.mk #[1, 2, 3])) = .ok (K, g') ∧ K.SelfSigned :=
  KeyMaker.fromPrimes_of_primesSignVerifiably expiringMaker_signs "secret" (Entropy.ofSeed (ByteArray.mk #[1, 2, 3]))

/-- RSA-512 keys built from four primes are generated keys, with no lifetime and with a lifetime
of 1000 seconds: their self-signatures verify. -/
theorem sample_rsa_key_generated :
    (∃ K g', sampleMaker.fromPrimes "alice" "example.org" "secret" 512
        (Bytes.ofNatBE 0xf774eb5248db40af72158370d269a9a5ae658f33fe3b890b93f448b3a5aa3c81 32)
        (Bytes.ofNatBE 0xde7d6b377936d536243d35702c1eea1f265974a7cc966f46c6aa7d550101b811 32)
        (Bytes.ofNatBE 0xc2b38755cd37880e16ac4191a26aa0ae044f1574f037afc644d82a531289bafb 32)
        (Bytes.ofNatBE 0xcf28f65e408fc146794ec926bc9e28eabee8062610e8ad0186a74a63a8c7d9e1 32)
        (Entropy.ofSeed (ByteArray.mk #[1, 2, 3])) = .ok (K, g') ∧
      K.Generated (userIdOf "alice" "example.org") 1700000000 0 "secret" ∧
      ((userIdOf "alice" "example.org").toUTF8.size ≤ Header.maxBodyLength →
        ∃ text, K.armorPrivate = .ok text ∧ Key.parse text.toUTF8 = .ok K)) ∧
    ∃ K g', expiringMaker.fromPrimes "alice" "example.org" "secret" 512
        (Bytes.ofNatBE 0xf774eb5248db40af72158370d269a9a5ae658f33fe3b890b93f448b3a5aa3c81 32)
        (Bytes.ofNatBE 0xde7d6b377936d536243d35702c1eea1f265974a7cc966f46c6aa7d550101b811 32)
        (Bytes.ofNatBE 0xc2b38755cd37880e16ac4191a26aa0ae044f1574f037afc644d82a531289bafb 32)
        (Bytes.ofNatBE 0xcf28f65e408fc146794ec926bc9e28eabee8062610e8ad0186a74a63a8c7d9e1 32)
        (Entropy.ofSeed (ByteArray.mk #[1, 2, 3])) = .ok (K, g') ∧
      K.Generated (userIdOf "alice" "example.org") 1700000000 1000 "secret" ∧
      ((userIdOf "alice" "example.org").toUTF8.size ≤ Header.maxBodyLength →
        ∃ text, K.armorPrivate = .ok text ∧ Key.parse text.toUTF8 = .ok K) := by
  obtain ⟨K, g', built, signed⟩ := sampleMaker_builds
  obtain ⟨K', g'', built', signed'⟩ := expiringMaker_builds
  refine ⟨⟨K, g', built, ?_⟩, K', g'', built', ?_⟩
  · exact generated_keys_well_formed sampleMaker 1700000000 "alice" "example.org" "secret" K g' rfl
      (by norm_num) (by simp [sampleMaker]) (.inr ⟨512, _, _, _, _, _, built⟩) signed
  · exact generated_keys_well_formed expiringMaker 1700000000 "alice" "example.org" "secret" K' g'' rfl
      (by norm_num) (by simp [expiringMaker]) (.inr ⟨512, _, _, _, _, _, built'⟩) signed'

end SealedMail
