import Mathlib
import SealedMail.Proofs.RsaEncryption
import SealedMail.Proofs.RingSearch
import SealedMail.Proofs.KeyLocking
import SealedMail.Proofs.PasswordSessions
import SealedMail.Proofs.SignatureStatus

/-! # Session keys sealed to keys open with their secrets

`sealFor` seals the session key message (cipher octet, key, two-byte sum) to the encryption
material of a recipient, in a public-key session packet addressed to the material's key id. The
packet reads back whenever the material's key packet holds numbers of the kind its algorithm
names (`KeyPacket.Coherent`), and so does the list `keyPacketsFor` writes for a ring.

On the way back the ring search passes over the private keys that hold no material with a
recipient's key id, and uses the first one that does. When that key unlocks with the passphrase
and its material's secret opens what is sealed to the recipient (`Key.HoldsSecret`, with
`KeyPacket.Opens` for the secret numbers; RSA numbers that fit the modulus do, by
`KeyPacket.opens_of_rsaSecret`), the session key message comes back, its cipher octet and sum
check out, and the search returns the session key that was sealed (`openWithRing_sealed`).
-/

namespace SealedMail

/-! ## The session key message -/

namespace SecretParams

/-- The two-byte sum of a key stays below `65536`. -/
theorem checksum_lt (b : ByteArray) : checksum b < 65536 := by
  rw [checksum, Bytes.foldl_eq]
  generalize b.data.toList = l
  suffices kept : ∀ acc, acc < 65536 → l.foldl (fun acc x => (acc + x.toNat) % 65536) acc < 65536 from
    kept 0 (by decide)
  induction l with
  | nil => exact fun _ small => small
  | cons x rest ih => exact fun acc _ => ih _ (Nat.mod_lt _ (by decide))

end SecretParams

namespace SessionKey

variable {s : SessionKey}

theorem size_message (s : SessionKey) : s.message.size = s.key.size + 3 := by
  simp [message, ByteArray.size_append, Bytes.u16]
  omega

/-- The session key message of a session key of the right length reads back as its cipher and key. -/
theorem sessionOfMessage_message (sized : s.Sized) :
    KeyPacket.sessionOfMessage s.message = .ok (CipherCode.ofAlgorithm s.algorithm, s.key) := by
  have sized : s.key.size = s.algorithm.keySize := sized
  have octet : s.message.get! 0 = s.algorithm.id.toUInt8 := by
    rw [message, ByteArray.append_assoc, Bytes.get!_append_left (by rw [Bytes.size_singleton]; omega)]
    rfl
  have cipher : CipherCode.ofNat s.algorithm.id.toUInt8.toNat = CipherCode.ofAlgorithm s.algorithm := by
    cases s.algorithm <;> rfl
  have named : (CipherCode.ofAlgorithm s.algorithm == .plaintext) = false := by
    cases s.algorithm <;> rfl
  have keyPart : s.message.extract 1 (1 + s.key.size) = s.key := by
    have middle := Bytes.extract_middle (ByteArray.mk #[s.algorithm.id.toUInt8]) s.key
      (Bytes.u16 (SecretParams.checksum s.key))
    rwa [Bytes.size_singleton, ← ByteArray.append_assoc] at middle
  have sumPart : s.message.extract (1 + s.key.size) (3 + s.key.size) = Bytes.u16 (SecretParams.checksum s.key) :=
    ByteArray.extract_append_eq_right (by simp [ByteArray.size_append])
      (by simp [ByteArray.size_append, Bytes.u16]; omega)
  have sum : Bytes.toNatBE (Bytes.u16 (SecretParams.checksum s.key)) = SecretParams.checksum s.key := by
    rw [Bytes.u16, Bytes.toNatBE_ofNatBE, Nat.mod_eq_of_lt (by simpa using SecretParams.checksum_lt s.key)]
  unfold KeyPacket.sessionOfMessage
  simp only [size_message, octet, cipher, named, CipherCode.toAlgorithm?_ofAlgorithm, ← sized, keyPart,
    sumPart, sum, beq_self_eq_true, if_true, Bool.false_eq_true, if_false]
  simp

/-- A cipher and key of the right length make the session key they came from. -/
theorem sessionOfPlain_ofAlgorithm (sized : s.Sized) :
    sessionOfPlain (CipherCode.ofAlgorithm s.algorithm) s.key = .ok s := by
  have sized : s.key.size = s.algorithm.keySize := sized
  simp [sessionOfPlain, sized]

/-- Every session key the engine accepts has as many bytes as its cipher takes. -/
theorem sized_of_sessionOfPlain {c : CipherCode} {key : ByteArray} (made : sessionOfPlain c key = .ok s) : s.Sized := by
  unfold sessionOfPlain at made
  split at made
  · next a known =>
    by_cases fits : key.size = a.keySize
    · simp only [fits, beq_self_eq_true, if_true, Except.ok.injEq] at made
      rw [← made]
      exact fits
    · simp [fits] at made
  · cases made

end SessionKey

/-! ## Sealing to a key packet -/

namespace KeyPacket

/-- A key packet whose public numbers are of the kind its algorithm reads: RSA numbers under an
RSA algorithm and ECDH numbers under ECDH. -/
def Coherent (k : KeyPacket) : Prop :=
  (∀ n e, k.params = .rsa n e → k.algorithm = .rsa ∨ k.algorithm = .rsaEncrypt ∨ k.algorithm = .rsaSign) ∧
    ∀ c pt h ci, k.params = .ecdh c pt h ci → k.algorithm = .ecdh

/-- Secret numbers that open what is sealed to a key packet: every session key message that
encryption to the packet seals decrypts back with them. -/
def Opens (k : KeyPacket) (values : List Mpi) : Prop :=
  ∀ msg g session g', k.encryptSession msg g = .ok (session, g') → k.decryptSession values session = .ok msg

/-- Numbers that fit an RSA key open what is sealed to it. -/
theorem opens_of_rsaSecret {k : KeyPacket} {values : List Mpi} (secret : k.RsaSecret values) : k.Opens values :=
  fun _ _ _ _ sealed => decryptSession_encryptSession_rsa secret sealed

variable {k : KeyPacket} {msg : ByteArray} {g g' : Entropy} {session : EncryptedSession}

/-- What sealing a message to a key packet can make: an RSA ciphertext, or an ECDH point with
the wrapped message. -/
theorem encryptSession_eq_ok (sealed : k.encryptSession msg g = .ok (session, g')) :
    (∃ n e c, k.params = .rsa n e ∧
      Rsa.encrypt n.toNat e.toNat msg (g.nonzeroBytes (Rsa.modulusBytes n.toNat)).1 = .ok c ∧
      session = .rsa (Mpi.ofBytes c)) ∨
    (∃ curve pt hash cipher point wrapped, k.params = .ecdh curve pt hash cipher ∧ msg.size ≤ 239 ∧
      Ecdh.encrypt curve hash cipher k.fingerprint pt.bytes (g.bytes 32).1 msg = some (point, wrapped) ∧
      session = .ecdh (Mpi.ofBytes point) wrapped) := by
  unfold encryptSession at sealed
  cases params : k.params
  case rsa n e =>
    rw [params] at sealed
    simp only at sealed
    cases enc : Rsa.encrypt n.toNat e.toNat msg (g.nonzeroBytes (Rsa.modulusBytes n.toNat)).1 with
    | error f => simp [enc] at sealed
    | ok c =>
      simp only [enc, Except.ok.injEq, Prod.mk.injEq] at sealed
      exact .inl ⟨n, e, c, rfl, enc, sealed.1.symm⟩
  case ecdh curve pt hash cipher =>
    rw [params] at sealed
    simp only at sealed
    by_cases long : msg.size > 239
    · simp [long] at sealed
    · simp only [long, if_false] at sealed
      cases enc : Ecdh.encrypt curve hash cipher k.fingerprint pt.bytes (g.bytes 32).1 msg with
      | none => simp [enc] at sealed
      | some r =>
        obtain ⟨point, wrapped⟩ := r
        simp only [enc, Except.ok.injEq, Prod.mk.injEq] at sealed
        exact .inr ⟨curve, pt, hash, cipher, point, wrapped, rfl, by omega, enc, sealed.1.symm⟩
  all_goals simp [params] at sealed

end KeyPacket

namespace Rsa

/-- A modulus that passes the checks has at most 512 bytes. -/
theorem modulusBytes_le_of_checkPublic {n e : Nat} (checked : checkPublic n e = .ok ()) : modulusBytes n ≤ 512 := by
  have small : n < Nat.pow 2 4096 := by
    by_contra large
    rw [checkPublic, if_pos (Nat.le_of_not_lt large)] at checked
    cases checked
  unfold modulusBytes
  rcases Nat.eq_zero_or_pos n with rfl | positive
  · decide
  · -- the bit count stays a variable, so that no power of two is computed
    generalize bits : 4096 = k at small
    have := (Nat.log2_lt (Nat.pos_iff_ne_zero.mp positive)).mpr small
    omega

end Rsa

namespace KeyPacket

variable {k : KeyPacket} {msg : ByteArray} {g g' : Entropy} {session : EncryptedSession}

/-- A sealed session of a coherent key packet reads back under the packet's algorithm, and is
written in at most 1024 bytes. -/
theorem reads_sealedSession (coherent : k.Coherent) (encrypts : k.algorithm.canEncrypt = true)
    (sealed : k.encryptSession msg g = .ok (session, g')) :
    Cursor.Reads (Cursor.encryptedSession k.algorithm) session.write session ∧ session.write.size ≤ 1024 := by
  rcases encryptSession_eq_ok sealed with ⟨n, e, c, params, enc, rfl⟩ | ⟨curve, pt, hash, cipher, point, wrapped, params, short, enc, rfl⟩
  · obtain ⟨checked, -, shape⟩ := Rsa.encrypt_eq_ok enc
    have bytes := Rsa.modulusBytes_le_of_checkPublic checked
    have size : c.size = Rsa.modulusBytes n.toNat := by rw [shape, Bytes.size_ofNatBE]
    have stripped := Mpi.size_strip_le c
    -- RSA numbers under a signing-only algorithm cannot be sealed to
    have rsa : k.algorithm = .rsa ∨ k.algorithm = .rsaEncrypt := by
      rcases coherent.1 n e params with alg | alg | alg
      · exact .inl alg
      · exact .inr alg
      · rw [alg] at encrypts; cases encrypts
    refine ⟨Cursor.reads_encryptedSession_rsa rsa (Mpi.canonical_ofBytes (by omega)), ?_⟩
    simp only [EncryptedSession.write, Mpi.write, ByteArray.size_append, Bytes.u16, Bytes.size_ofNatBE, Mpi.ofBytes]
    omega
  · obtain ⟨pointSize, wrappedSize⟩ := Ecdh.encrypt_sizes enc
    rw [coherent.2 curve pt hash cipher params]
    have stripped := Mpi.size_strip_le point
    refine ⟨Cursor.reads_encryptedSession_ecdh (Mpi.canonical_ofBytes (by omega)) (by omega), ?_⟩
    simp only [EncryptedSession.write, Mpi.write, ByteArray.size_append, Bytes.u16, Bytes.size_ofNatBE, Mpi.ofBytes,
      Bytes.size_singleton]
    omega

end KeyPacket

/-! ## Public-key session packets -/

section Sealing

variable {s : SessionKey} {m : Material} {g g' : Entropy} {p : PublicKeySessionPacket}

/-- What `sealFor` makes: a version 3 packet addressed to the material's key id, under its
algorithm, holding the session key message sealed to its key packet. -/
theorem sealFor_eq_ok (sealed : sealFor s m g = .ok (p, g')) :
    m.canEncrypt = true ∧ m.key.encryptSession s.message g = .ok (p.session, g') ∧
      p.version = 3 ∧ p.keyId = m.keyId ∧ p.algorithm = m.key.algorithm := by
  unfold sealFor at sealed
  by_cases encrypts : m.canEncrypt = true
  · simp only [encrypts, Bool.not_true, Bool.false_eq_true, if_false] at sealed
    cases enc : m.key.encryptSession s.message g with
    | error e => simp [enc] at sealed
    | ok r =>
      obtain ⟨session, g₂⟩ := r
      simp only [enc, Except.ok.injEq, Prod.mk.injEq] at sealed
      obtain ⟨rfl, rfl⟩ := sealed
      exact ⟨encrypts, rfl, rfl, rfl, rfl⟩
  · simp [encrypts] at sealed

/-- A packet sealed to coherent material reads back. -/
theorem sealFor_readsBack (coherent : m.key.Coherent) (sealed : sealFor s m g = .ok (p, g')) :
    (Packet.publicKeySession p).ReadsBack := by
  obtain ⟨encrypts, enc, v3, named, alg⟩ := sealFor_eq_ok sealed
  obtain ⟨session, size⟩ := KeyPacket.reads_sealedSession coherent encrypts enc
  rw [← alg] at session
  have id8 : p.keyId.size = 8 := by rw [named]; exact KeyPacket.size_keyId _
  refine ⟨?_, Packet.read_publicKeySession (Cursor.reads_publicKeySession v3 id8
    (PublicKeyAlgorithm.ofNat_toNat (by rw [alg]; exact encrypts)) session)⟩
  have limit : Header.maxBodyLength = 4294967295 := rfl
  simp only [Packet.body, PublicKeySessionPacket.body, ByteArray.size_append, Bytes.size_singleton, id8]
  omega

/-- Private material with the recipient's key packet takes a packet sealed to coherent material:
the packet carries as many values as the algorithm reads. -/
theorem fits_of_sealFor (coherent : m.key.Coherent) (sealed : sealFor s m g = .ok (p, g')) {mk : Material}
    (same : mk.key = m.key) : mk.fits p = true := by
  obtain ⟨encrypts, enc, -⟩ := sealFor_eq_ok sealed
  unfold Material.fits
  rw [same]
  rcases KeyPacket.encryptSession_eq_ok enc with ⟨n, e, c, params, -, session⟩ | ⟨curve, pt, hash, cipher, point, wrapped, params, -, -, session⟩
  · rcases coherent.1 n e params with alg | alg | alg
    all_goals simp [alg, session, EncryptedSession.valueCount]
    simp [Material.canEncrypt, alg, PublicKeyAlgorithm.canEncrypt] at encrypts
  · simp [coherent.2 curve pt hash cipher params, session, EncryptedSession.valueCount]

end Sealing

/-! ## Unlocking the material of a key -/

theorem List.exists_of_forall₂_right {α β : Type} {R : α → β → Prop} {l : List α} {l' : List β}
    (related : List.Forall₂ R l l') {b : β} (mem : b ∈ l') : ∃ a ∈ l, R a b := by
  induction related with
  | nil => cases mem
  | cons head _ ih =>
    rcases List.mem_cons.mp mem with rfl | later
    · exact ⟨_, List.mem_cons_self, head⟩
    · obtain ⟨a, member, rel⟩ := ih later
      exact ⟨a, List.mem_cons_of_mem _ member, rel⟩

theorem List.exists_of_forall₂_left {α β : Type} {R : α → β → Prop} {l : List α} {l' : List β}
    (related : List.Forall₂ R l l') {a : α} (mem : a ∈ l) : ∃ b ∈ l', R a b := by
  induction related with
  | nil => cases mem
  | cons head _ ih =>
    rcases List.mem_cons.mp mem with rfl | later
    · exact ⟨_, List.mem_cons_self, head⟩
    · obtain ⟨b, member, rel⟩ := ih later
      exact ⟨b, List.mem_cons_of_mem _ member, rel⟩

/-- Searching two related lists with tests that agree on related elements finds related elements. -/
theorem List.find?_of_forall₂ {α β : Type} {R : α → β → Prop} {P : α → Bool} {Q : β → Bool} {l : List α}
    {l' : List β} (related : List.Forall₂ R l l') (same : ∀ a b, R a b → P a = Q b) {a : α}
    (found : l.find? P = some a) : ∃ b, l'.find? Q = some b ∧ R a b := by
  induction related with
  | nil => cases found
  | @cons x y _ _ head _ ih =>
    rw [List.find?_cons] at found
    rw [List.find?_cons, ← same x y head]
    cases test : P x with
    | true =>
      rw [test, Option.some.injEq] at found
      exact ⟨y, rfl, found ▸ head⟩
    | false =>
      rw [test] at found
      exact ih found

namespace Key

variable {k k' : Key} {p : String}

/-- Opening a secret part with a passphrase is unlocking its numbers. -/
theorem openSecret_unlock {alg : PublicKeyAlgorithm} {sec sec' : SecretParams} (opened : openSecret alg p sec = .ok sec') :
    ∃ values, sec.unlock alg p = .ok values ∧ sec' = .plain values := by
  unfold openSecret at opened
  cases unlocked : sec.unlock alg p with
  | ok values =>
    rw [unlocked] at opened
    exact ⟨values, rfl, (Except.ok.inj opened).symm⟩
  | error failure =>
    rw [unlocked] at opened
    cases failure <;> simp at opened

end Key

theorem Subkey.unlockWith_of_secret {s s' : Subkey} {p : String} {sec : SecretParams} (secret : s.secret = some sec)
    (opened : s.unlockWith p = .ok s') :
    ∃ values, sec.unlock s.key.algorithm p = .ok values ∧ s' = { s with secret := some (.plain values) } := by
  unfold Subkey.unlockWith at opened
  rw [secret] at opened
  obtain ⟨sec', opens, built⟩ := Outcome.bind_eq_ok opened
  obtain ⟨values, unlocked, rfl⟩ := Key.openSecret_unlock opens
  exact ⟨values, unlocked, (Except.ok.inj built).symm⟩

namespace Key

variable {k k' : Key} {p : String}

theorem findMaterial_keyId {id : ByteArray} {m : Material} (found : k.findMaterial id = some m) : m.keyId = id := by
  unfold findMaterial at found
  have test := List.find?_some found
  exact Bytes.equal_iff.mp test

/-- Unlocking a key opens the secret part of the material it holds for a key id, and keeps the
material's key packet. -/
theorem findMaterial_unlock (unlocked : k.unlock p = .ok k') {id : ByteArray} {m : Material} {sec : SecretParams}
    (found : k.findMaterial id = some m) (secret : m.secret = some sec) :
    ∃ values, sec.unlock m.key.algorithm p = .ok values ∧
      k'.findMaterial id = some { m with secret := some (.plain values) } := by
  obtain ⟨ps, ps', primary, opened, rest, subkeys⟩ := unlock_eq_ok unlocked
  have samePrimary : k'.primaryMaterial.keyId = k.primaryMaterial.keyId := by rw [rest]; rfl
  rw [findMaterial_eq] at found ⊢
  rw [samePrimary]
  by_cases isPrimary : Bytes.equal k.primaryMaterial.keyId id = true
  · -- the primary key's secret part was opened
    simp only [isPrimary, if_true, Option.some.injEq] at found ⊢
    subst found
    have same : sec = ps := by
      simp only [primaryMaterial, primary, Option.some.injEq] at secret
      exact secret.symm
    subst same
    obtain ⟨values, unlockedPart, rfl⟩ := openSecret_unlock opened
    refine ⟨values, unlockedPart, ?_⟩
    rw [rest]
    rfl
  · -- a subkey's secret part was opened, and the search finds its opened copy
    simp only [isPrimary, Bool.false_eq_true, if_false] at found ⊢
    obtain ⟨sub, foundSub, rfl⟩ := Option.map_eq_some_iff.mp found
    have opened : ∃ sub', k'.subkeys.find? (fun s => Bytes.equal s.material.keyId id) = some sub' ∧
        sub.unlockWith p = .ok sub' :=
      List.find?_of_forall₂ subkeys (fun a b opened => by rw [(Subkey.unlockWith_eq_ok opened).1]; rfl) foundSub
    obtain ⟨sub', foundSub', opens⟩ := opened
    obtain ⟨values, unlockedPart, rfl⟩ := Subkey.unlockWith_of_secret secret opens
    exact ⟨values, unlockedPart, by rw [foundSub']; rfl⟩

end Key

/-! ## Opening sealed packets with a private key ring -/

/-- A private key that holds the secret of a recipient's material under a passphrase: the key
unlocks with the passphrase, and its material with the recipient's key id is the recipient's key
packet with a secret part whose numbers, once opened, open what is sealed to that packet. -/
structure Key.HoldsSecret (k : Key) (m : Material) (passphrase : String) : Prop where
  unlocks : ∃ k', k.unlock passphrase = .ok k'
  material : ∃ mk sec, k.findMaterial m.keyId = some mk ∧ mk.key = m.key ∧ mk.secret = some sec ∧
    ∀ values, sec.unlock m.key.algorithm passphrase = .ok values → m.key.Opens values

section Opening

variable {s : SessionKey} {ms : List Material} {ps : List PublicKeySessionPacket} {k : Key} {passphrase : String}

/-- Material opens a packet sealed to the same key packet with numbers that open it. -/
theorem Material.openPacket_sealed (sized : s.Sized) {m mu : Material} {g g' : Entropy} {p : PublicKeySessionPacket}
    (sealed : sealFor s m g = .ok (p, g')) {values : List Mpi} (secret : mu.secret = some (.plain values))
    (same : mu.key = m.key) (opens : m.key.Opens values) : mu.openPacket p = .ok s := by
  obtain ⟨-, enc, -⟩ := sealFor_eq_ok sealed
  have decrypted := opens _ _ _ _ enc
  rw [← same] at decrypted
  simp [Material.openPacket, Material.decryptSession, secret, decrypted, Except.mapError, bind, Except.bind,
    SessionKey.sessionOfMessage_message sized, SessionKey.sessionOfPlain_ofAlgorithm sized]

/-- For a packet that names its recipient, the candidates of a key are its material with that key
id, when it holds a secret and takes the packet. -/
theorem candidateIds_named {p : PublicKeySessionPacket} (named : p.isWildcard = false) :
    candidateIds p k = match k.findMaterial p.keyId with
      | some m => if m.hasSecret && m.fits p then [m.keyId] else []
      | none => [] := by
  -- split on the material found rather than compare the statement's match with the definition's
  cases found : k.findMaterial p.keyId <;> simp [candidateIds, named, found]

/-- The material a key holds for an addressed packet, as the search uses the key: opened by
unlocking, or already open. -/
theorem usable_findMaterial {u : Key} (usable : k.usableFor ps (some passphrase) = some u)
    {x : PublicKeySessionPacket × ByteArray} (addressed : x ∈ k.addressed ps) {mk : Material} {sec : SecretParams}
    (found : k.findMaterial x.2 = some mk) (secret : mk.secret = some sec) :
    ∃ values, sec.unlock mk.key.algorithm passphrase = .ok values ∧
      u.findMaterial x.2 = some { mk with secret := some (.plain values) } := by
  unfold Key.usableFor at usable
  by_cases opened : k.addressedOpen ps = true
  · -- every addressed material is open, so the secret part is in the clear already
    rw [if_pos opened, Option.some.injEq] at usable
    subst usable
    have open' : mk.isUnlocked = true := by
      have each := List.all_eq_true.mp opened x addressed
      rwa [found, Option.any_some] at each
    cases sec with
    | plain values =>
      refine ⟨values, rfl, ?_⟩
      rw [found, ← secret]
    | encrypted => simp [Material.isUnlocked, secret, SecretParams.isEncrypted] at open'
  · rw [if_neg opened] at usable
    obtain ⟨pw, same, unlocked⟩ := Option.bind_eq_some_iff.mp usable
    cases same
    have unlocked : k.unlock passphrase = .ok u := by
      cases h : k.unlock passphrase <;> simp_all [Except.toOption]
    exact Key.findMaterial_unlock unlocked found secret

variable (sized : s.Sized) (sealedTo : List.Forall₂ (fun m p => ∃ g g', sealFor s m g = .ok (p, g')) ms ps)
  (named : ∀ m ∈ ms, m.keyId.toList.all (· == 0) = false)
include sealedTo named

/-- Every packet sealed to the recipients names its recipient's key id. -/
theorem sealed_named {p : PublicKeySessionPacket} (mem : p ∈ ps) :
    ∃ m ∈ ms, (∃ g g', sealFor s m g = .ok (p, g')) ∧ p.keyId = m.keyId ∧ p.isWildcard = false := by
  obtain ⟨m, member, g, g', sealed⟩ := List.exists_of_forall₂_right sealedTo mem
  have id := (sealFor_eq_ok sealed).2.2.2.1
  refine ⟨m, member, ⟨g, g', sealed⟩, id, ?_⟩
  rw [PublicKeySessionPacket.isWildcard, id]
  exact named m member

/-- A key that holds no material with a recipient's key id is addressed by none of the packets. -/
theorem addressed_of_unnamed (none_held : ∀ m ∈ ms, k.findMaterial m.keyId = none) : k.addressed ps = [] := by
  refine List.flatMap_eq_nil_iff.mpr fun p mem => ?_
  obtain ⟨m, member, -, id, wild⟩ := sealed_named sealedTo named mem
  rw [candidateIds_named wild, id, none_held m member]
  rfl

include sized

/-- A key holding the secret of every recipient it has material for opens every packet addressed
to it, with the key as the search uses it, to the sealed session key. -/
theorem opensAddressed_of_holds (only : ∀ m ∈ ms, k.findMaterial m.keyId ≠ none → k.HoldsSecret m passphrase)
    {u : Key} (usable : k.usableFor ps (some passphrase) = some u) {x : PublicKeySessionPacket × ByteArray}
    (addressed : x ∈ k.addressed ps) : u.opensAddressed x = some s := by
  obtain ⟨p, mem, id, candidate, rfl⟩ : ∃ p ∈ ps, ∃ id ∈ candidateIds p k, x = (p, id) := by
    simpa [Key.addressed, eq_comm] using addressed
  obtain ⟨m, member, ⟨g, g', sealed⟩, pid, wild⟩ := sealed_named sealedTo named mem
  rw [candidateIds_named wild] at candidate
  -- the packet is addressed to the key's material with the recipient's key id
  cases found : k.findMaterial p.keyId with
  | none => rw [found] at candidate; cases candidate
  | some mk =>
    rw [found] at candidate
    have idEq : id = p.keyId := by
      rw [← Key.findMaterial_keyId found]
      split at candidate <;> simp_all
    obtain ⟨mk', sec, found', same, secret, opens⟩ := (only m member (by rw [← pid, found]; simp)).material
    rw [← pid, found, Option.some.injEq] at found'
    subst found'
    obtain ⟨values, unlocked, used⟩ := usable_findMaterial usable addressed (by rw [idEq]; exact found) secret
    rw [same] at unlocked
    have opened : ({ mk with secret := some (.plain values) } : Material).openPacket p = .ok s :=
      Material.openPacket_sealed sized sealed rfl same (opens values unlocked)
    simp [Key.opensAddressed, used, opened, Except.toOption]

variable (coherent : ∀ m ∈ ms, m.key.Coherent)
include coherent

/-- A key holding the secret of some recipient, and of every recipient it has material for,
recovers the sealed session key. -/
theorem opensSession_of_holds (holds : ∃ m ∈ ms, k.HoldsSecret m passphrase)
    (only : ∀ m ∈ ms, k.findMaterial m.keyId ≠ none → k.HoldsSecret m passphrase) :
    k.opensSession ps (some passphrase) = some s := by
  obtain ⟨m, member, held⟩ := holds
  obtain ⟨u, usable⟩ : ∃ u, k.usableFor ps (some passphrase) = some u := by
    unfold Key.usableFor
    split
    · exact ⟨k, rfl⟩
    · obtain ⟨k', unlocked⟩ := held.unlocks
      exact ⟨k', by simp [unlocked, Except.toOption]⟩
  -- the packet sealed to the held recipient is addressed to the key
  obtain ⟨p, mem, g, g', sealed⟩ := List.exists_of_forall₂_left sealedTo member
  obtain ⟨mk, sec, found, same, secret, -⟩ := held.material
  have pid := (sealFor_eq_ok sealed).2.2.2.1
  have candidate : candidateIds p k = [mk.keyId] := by
    have wild : p.isWildcard = false := by rw [PublicKeySessionPacket.isWildcard, pid]; exact named m member
    rw [candidateIds_named wild, pid, found]
    simp [Material.hasSecret, secret, fits_of_sealFor (coherent m member) sealed same]
  have nonempty : k.addressed ps ≠ [] :=
    List.ne_nil_of_mem (List.mem_flatMap.mpr ⟨p, mem, by rw [candidate]; exact List.mem_singleton_self _⟩)
  unfold Key.opensSession
  rw [usable, Option.bind_some]
  cases listed : k.addressed ps with
  | nil => exact absurd listed nonempty
  | cons x rest =>
    have opened := opensAddressed_of_holds sized sealedTo named only usable
      (by rw [listed]; exact List.mem_cons_self)
    simp [opened]

/-- A private key ring opens public-key session packets sealed to recipients' materials, to the
session key sealed in them. The ring's keys before the key that holds a recipient's secret hold
no material with a recipient's key id; that key unlocks with the passphrase, and its material with
each recipient's key id it has is that recipient's key packet with a secret that opens it. -/
theorem openWithRing_sealed {ring : KeyRing} {pre post : List Key} (order : ring.keys = pre ++ k :: post)
    (first : ∀ k' ∈ pre, ∀ m ∈ ms, k'.findMaterial m.keyId = none)
    (holds : ∃ m ∈ ms, k.HoldsSecret m passphrase)
    (only : ∀ m ∈ ms, k.findMaterial m.keyId ≠ none → k.HoldsSecret m passphrase) :
    openWithRing ps ring (some passphrase) = .ok s := by
  have nonempty : ps ≠ [] := by
    obtain ⟨m, member, -⟩ := holds
    obtain ⟨p, mem, -⟩ := List.exists_of_forall₂_left sealedTo member
    exact List.ne_nil_of_mem mem
  refine openWithRing_ok_iff.mpr ⟨nonempty, ?_⟩
  -- the keys before pass over the packets, and the holding key recovers the session key
  have passed : pre.findSome? (·.opensSession ps (some passphrase)) = none :=
    List.findSome?_eq_none_iff.mpr fun k' member => by
      simp [Key.opensSession, Key.usableFor, Key.addressedOpen,
        addressed_of_unnamed sealedTo named (first k' member)]
  rw [order, List.findSome?_append, passed, Option.none_or, List.findSome?_cons,
    opensSession_of_holds sized sealedTo named coherent holds only]

end Opening

/-! ## The packets for a ring of recipients -/

section Recipients

variable {α γ σ ε : Type}

/-- A fold whose every step appends one element, related to the member it reads, makes a list
related member by member to the folded list. -/
theorem foldlM_append_forall₂ {f : List γ × σ → α → Except ε (List γ × σ)} {R : α → γ → Prop}
    (step : ∀ acc a acc', f acc a = .ok acc' → ∃ c, R a c ∧ acc'.1 = acc.1 ++ [c]) (l : List α)
    (init result : List γ × σ) (folded : l.foldlM f init = .ok result) :
    ∃ cs, result.1 = init.1 ++ cs ∧ List.Forall₂ R l cs := by
  induction l generalizing init with
  | nil =>
    simp only [List.foldlM, pure, Except.pure, Except.ok.injEq] at folded
    exact ⟨[], by rw [← folded, List.append_nil], .nil⟩
  | cons a rest ih =>
    rw [List.foldlM_cons] at folded
    cases stepped : f init a with
    | error e => simp [stepped, bind, Except.bind] at folded
    | ok acc =>
      simp only [stepped, bind, Except.bind] at folded
      obtain ⟨c, related, appended⟩ := step init a acc stepped
      obtain ⟨cs, listed, each⟩ := ih acc folded
      exact ⟨c :: cs, by rw [listed, appended, List.append_assoc, List.singleton_append], .cons related each⟩

/-- A fold whose every step succeeds does not fail. -/
theorem foldlM_ne_error {β : Type} {f : β → α → Except ε β} {l : List α}
    (step : ∀ b, ∀ a ∈ l, ∃ b', f b a = .ok b') (init : β) (e : ε) : l.foldlM f init ≠ .error e := by
  induction l generalizing init with
  | nil => simp [List.foldlM, pure, Except.pure]
  | cons a rest ih =>
    obtain ⟨b, stepped⟩ := step init a List.mem_cons_self
    rw [List.foldlM_cons, stepped]
    exact ih (fun b' a' mem => step b' a' (List.mem_cons_of_mem a mem)) b

/-- A relation through a middle element splits into two relations through a middle list. -/
theorem List.forall₂_through {δ : Type} {A : α → δ → Prop} {B : δ → γ → Prop} {l : List α} {l' : List γ}
    (related : List.Forall₂ (fun a c => ∃ d, A a d ∧ B d c) l l') :
    ∃ ds, List.Forall₂ A l ds ∧ List.Forall₂ B ds l' := by
  induction related with
  | nil => exact ⟨[], .nil, .nil⟩
  | cons head _ ih =>
    obtain ⟨d, left, right⟩ := head
    obtain ⟨ds, lefts, rights⟩ := ih
    exact ⟨d :: ds, .cons left lefts, .cons right rights⟩

variable {s : SessionKey} {R : KeyRing} {at_ : Int} {g g' : Entropy} {bytes : ByteArray}

/-- What `keyPacketsFor` writes for a ring: the packets sealed, in ring order, to the encryption
key each recipient has at the time. -/
theorem keyPacketsFor_eq_ok (sealed : keyPacketsFor s R at_ g = .ok (bytes, g')) :
    R.keys ≠ [] ∧ ∃ ms ps, bytes = KeyPackets.write { publicKey := ps } ∧
      List.Forall₂ (fun k m => k.encryptionKey at_ = some m) R.keys ms ∧
      List.Forall₂ (fun m p => ∃ g g', sealFor s m g = .ok (p, g')) ms ps := by
  unfold keyPacketsFor at sealed
  by_cases empty : R.keys.isEmpty = true
  · simp [empty, throw, throwThe, MonadExceptOf.throw, bind, Except.bind] at sealed
  simp only [empty, Bool.false_eq_true, if_false, bind, Except.bind] at sealed
  split at sealed
  · cases sealed
  · next result folded =>
    simp only [pure, Except.pure, Except.ok.injEq, Prod.mk.injEq] at sealed
    -- each step seals one packet to the encryption key of the key it reads
    have listing := foldlM_append_forall₂
      (R := fun k p => ∃ m, k.encryptionKey at_ = some m ∧ ∃ g g', sealFor s m g = .ok (p, g'))
      (fun acc k acc' stepped => by
        split at stepped
        · next m chosen =>
          split at stepped
          · cases stepped
          · next v sealedStep =>
            simp only [pure, Except.pure, Except.ok.injEq] at stepped
            exact ⟨v.1, ⟨m, chosen, acc.2, v.2, sealedStep⟩, by rw [← stepped]⟩
        · cases stepped) R.keys ([], g) result folded
    obtain ⟨ps, listed, each⟩ := listing
    obtain ⟨ms, keys, seals⟩ := List.forall₂_through each
    refine ⟨by simpa using empty, ms, ps, ?_, keys, seals⟩
    rw [← sealed.1, listed, List.nil_append]

/-- `keyPacketsFor` succeeds on a ring whose every key has an encryption key at the time to which
the session key seals. -/
theorem keyPacketsFor_succeeds (nonempty : R.keys ≠ [])
    (each : ∀ k ∈ R.keys, ∃ m, k.encryptionKey at_ = some m ∧ ∀ g, ∃ p g', sealFor s m g = .ok (p, g'))
    (g : Entropy) : ∃ bytes g', keyPacketsFor s R at_ g = .ok (bytes, g') := by
  unfold keyPacketsFor
  simp only [List.isEmpty_iff, nonempty, if_false, bind, Except.bind]
  split
  · next e failed =>
    refine absurd failed (foldlM_ne_error (fun acc k member => ?_) _ e)
    obtain ⟨m, chosen, seals⟩ := each k member
    obtain ⟨p, g', sealed⟩ := seals acc.2
    exact ⟨(acc.1 ++ [p], g'), by simp [chosen, sealed, pure, Except.pure]⟩
  · exact ⟨_, _, rfl⟩

end Recipients

/-! ## Rings that receive and rings that open -/

/-- Material to which every session key of the right length seals, whatever the generator. -/
def Material.Seals (m : Material) : Prop :=
  ∀ s : SessionKey, s.Sized → ∀ g, ∃ p g', sealFor s m g = .ok (p, g')

/-- RSA material seals every session key when its numbers pass the checks and its modulus has room
for the longest session key message (35 bytes) and eleven bytes of padding. -/
theorem Material.seals_rsa {m : Material} {n e : Mpi} (params : m.key.params = .rsa n e)
    (encrypts : m.canEncrypt = true) (checked : Rsa.checkPublic n.toNat e.toNat = .ok ())
    (room : 46 ≤ Rsa.modulusBytes n.toNat) : m.Seals := by
  intro s sized g
  have long : s.message.size + 11 ≤ Rsa.modulusBytes n.toNat := by
    have short := SymmetricAlgorithm.keySize_le s.algorithm
    have sized : s.key.size = s.algorithm.keySize := sized
    rw [SessionKey.size_message]
    omega
  cases enc : Rsa.encrypt n.toNat e.toNat s.message (g.nonzeroBytes (Rsa.modulusBytes n.toNat)).1 with
  | error f =>
    -- the checks pass and there is room, so encryption does not fail
    simp [Rsa.encrypt, checked, bind, Except.bind, show ¬ s.message.size + 11 > Rsa.modulusBytes n.toNat by omega,
      pure, Except.pure] at enc
  | ok c =>
    exact ⟨⟨3, m.keyId, m.key.algorithm, .rsa (Mpi.ofBytes c)⟩, (g.nonzeroBytes (Rsa.modulusBytes n.toNat)).2,
      by simp [sealFor, encrypts, KeyPacket.encryptSession, params, enc]⟩

/-- Recipients ready for a session key at a time: there is at least one, and each has an encryption
key, coherent, addressed by a key id that is not the wildcard, to which session keys seal. -/
structure KeyRing.Receives (R : KeyRing) (at_ : Int) : Prop where
  nonempty : R.keys ≠ []
  encryption : ∀ k ∈ R.keys, ∃ m, k.encryptionKey at_ = some m ∧ m.key.Coherent ∧
    m.keyId.toList.all (· == 0) = false ∧ m.Seals

/-- A private key ring that holds the secrets of recipients at a time: the keys before some key
hold no material with a recipient's key id, and that key holds the secret of one recipient, and of
every recipient whose key id it has material for. -/
structure KeyRing.HoldsSecretsOf (P R : KeyRing) (at_ : Int) (passphrase : String) : Prop where
  holder : ∃ pre k post, P.keys = pre ++ k :: post ∧
    (∀ k' ∈ pre, ∀ r ∈ R.keys, ∀ m, r.encryptionKey at_ = some m → k'.findMaterial m.keyId = none) ∧
    (∃ r ∈ R.keys, ∃ m, r.encryptionKey at_ = some m ∧ k.HoldsSecret m passphrase) ∧
    (∀ r ∈ R.keys, ∀ m, r.encryptionKey at_ = some m → k.findMaterial m.keyId ≠ none → k.HoldsSecret m passphrase)

section Rings

variable {s : SessionKey} {R P : KeyRing} {at_ : Int} {passphrase : String}

/-- Recipients that receive get their packets: `keyPacketsFor` succeeds for every session key of
the right length. -/
theorem keyPacketsFor_of_receives (receives : R.Receives at_) (sized : s.Sized) (g : Entropy) :
    ∃ bytes g', keyPacketsFor s R at_ g = .ok (bytes, g') :=
  keyPacketsFor_succeeds receives.nonempty (fun k member => by
    obtain ⟨m, chosen, -, -, seals⟩ := receives.encryption k member
    exact ⟨m, chosen, seals s sized⟩) g

/-- The packets `keyPacketsFor` writes for recipients that receive read back, and a private ring
holding their secrets opens them to the session key. -/
theorem keyPacketsFor_opens (receives : R.Receives at_) (holds : P.HoldsSecretsOf R at_ passphrase)
    (sized : s.Sized) {g g' : Entropy} {bytes : ByteArray} (sealed : keyPacketsFor s R at_ g = .ok (bytes, g')) :
    ∃ ps, bytes = KeyPackets.write { publicKey := ps } ∧ (∀ p ∈ ps, (Packet.publicKeySession p).ReadsBack) ∧
      openWithRing ps P (some passphrase) = .ok s := by
  obtain ⟨-, ms, ps, written, keys, seals⟩ := keyPacketsFor_eq_ok sealed
  -- every material sealed to is the encryption key of a recipient
  have recipient : ∀ m ∈ ms, ∃ r ∈ R.keys, r.encryptionKey at_ = some m := fun m member =>
    List.exists_of_forall₂_right keys member
  have encryption : ∀ m ∈ ms, m.key.Coherent ∧ m.keyId.toList.all (· == 0) = false := fun m member => by
    obtain ⟨r, rMember, chosen⟩ := recipient m member
    obtain ⟨m', chosen', coherent, named, -⟩ := receives.encryption r rMember
    rw [chosen, Option.some.injEq] at chosen'
    exact chosen' ▸ ⟨coherent, named⟩
  refine ⟨ps, written, fun p member => ?_, ?_⟩
  · obtain ⟨m, mMember, g₁, g₂, sealedOne⟩ := List.exists_of_forall₂_right seals member
    exact sealFor_readsBack (encryption m mMember).1 sealedOne
  · obtain ⟨pre, k, post, order, first, held, only⟩ := holds.holder
    obtain ⟨r, rMember, m, chosen, holdsOne⟩ := held
    obtain ⟨m', mMember, chosen'⟩ := List.exists_of_forall₂_left keys rMember
    rw [chosen, Option.some.injEq] at chosen'
    subst chosen'
    refine openWithRing_sealed sized seals (fun m member => (encryption m member).2)
      (fun m member => (encryption m member).1) order ?_ ⟨m, mMember, holdsOne⟩ ?_
    · intro k' kMember m member
      obtain ⟨r, rMember, chosen⟩ := recipient m member
      exact first k' kMember r rMember m chosen
    · intro m member held
      obtain ⟨r, rMember, chosen⟩ := recipient m member
      exact only r rMember m chosen held

end Rings

end SealedMail
