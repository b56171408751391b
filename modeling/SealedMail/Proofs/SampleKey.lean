import Mathlib
import SealedMail.Proofs.KeySessions
import SealedMail.Proofs.KeyRoundTrip
import SealedMail.Proofs.FreshKeys
import SealedMail.Proofs.KeyExpiry

/-! # A sample RSA key

The round-trip theorems ask of their keys what real keys have: recipients that receive session
keys (`KeyRing.Receives`) and a private ring that holds their secrets (`KeyRing.HoldsSecretsOf`).
This module shows both of one small RSA key, armored as a public and as a private key block.

Its primes are one more than numbers with no prime factors but 2 and 3, so Lucas's test proves
them prime from three modular powers each (`prime_of_lucas_smooth`); the powers are evaluated by
square-and-multiply over a fixed number of exponent bits (`Modular.powModBits`), which the kernel
runs directly. The key has no user ids and no subkeys, so its primary key is its encryption key.
-/

namespace SealedMail

/-! ## Certified primes -/

namespace Modular

/-- `b ^ e % m` by squaring over `bits` bits of the exponent, recursive on the bit count. -/
def powModBits (b m : Nat) : Nat → Nat → Nat
  | 0, _ => 1 % m
  | bits + 1, e =>
    let r := powModBits (b * b % m) m bits (e / 2)
    if e % 2 = 1 then r * (b % m) % m else r

theorem powModBits_eq (bits : Nat) : ∀ b e m, e < 2 ^ bits → powModBits b m bits e = b ^ e % m := by
  induction bits with
  | zero =>
    intro b e m small
    rw [Nat.pow_zero, Nat.lt_one_iff] at small
    subst small
    simp [powModBits]
  | succ bits ih =>
    intro b e m small
    simp only [powModBits]
    rw [ih _ _ _ (by rw [Nat.pow_succ] at small; omega)]
    -- the square to half the exponent, times the base for an odd exponent
    split
    · have halves : e = 2 * (e / 2) + 1 := by omega
      rw [← Nat.pow_mod, ← Nat.pow_two, ← Nat.pow_mul, ← Nat.mul_mod, ← Nat.pow_succ, Nat.succ_eq_add_one, ← halves]
    · have halves : e = 2 * (e / 2) := by omega
      rw [← Nat.pow_mod, ← Nat.pow_two, ← Nat.pow_mul, ← halves]

end Modular

theorem ZMod.pow_eq_one_of_mod {p a k : Nat} (large : 1 < p) (power : a ^ k % p = 1) : ((a : ZMod p) ^ k) = 1 := by
  have cast : ((a ^ k : Nat) : ZMod p) = ((1 : Nat) : ZMod p) := by
    rw [ZMod.natCast_eq_natCast_iff', power, Nat.mod_eq_of_lt large]
  simpa using cast

theorem ZMod.pow_ne_one_of_mod {p a k : Nat} (large : 1 < p) (power : a ^ k % p ≠ 1) : ((a : ZMod p) ^ k) ≠ 1 := by
  intro one
  have cast : ((a ^ k : Nat) : ZMod p) = ((1 : Nat) : ZMod p) := by simpa using one
  rw [ZMod.natCast_eq_natCast_iff', Nat.mod_eq_of_lt large] at cast
  exact power cast

/-- Lucas's test for a number one more than a product of powers of 2 and 3: a base whose power
to the number less one is one, and whose powers to its half and third are not, proves it prime. -/
theorem prime_of_lucas_smooth {p a i j : Nat} (large : 1 < p) (smooth : p - 1 = 2 ^ i * 3 ^ j)
    (whole : a ^ (p - 1) % p = 1) (half : a ^ ((p - 1) / 2) % p ≠ 1) (third : a ^ ((p - 1) / 3) % p ≠ 1) :
    p.Prime := by
  refine lucas_primality p a (ZMod.pow_eq_one_of_mod large whole) fun r prime divides => ?_
  -- the only primes dividing `p - 1` are 2 and 3
  rw [smooth] at divides
  rcases (Nat.Prime.dvd_mul prime).mp divides with two | three
  · rw [(Nat.prime_dvd_prime_iff_eq prime Nat.prime_two).mp (prime.dvd_of_dvd_pow two)]
    exact ZMod.pow_ne_one_of_mod large half
  · rw [(Nat.prime_dvd_prime_iff_eq prime Nat.prime_three).mp (prime.dvd_of_dvd_pow three)]
    exact ZMod.pow_ne_one_of_mod large third

/-! ## Keys with their secret numbers in the clear -/

/-- Secret numbers in the clear read back as the last part of a key packet: the zero usage byte,
the numbers and their two-byte checksum. -/
theorem Cursor.readsLast_plainSecret {alg : PublicKeyAlgorithm} {values : List Mpi}
    (fit : SecretParams.CanonicalValues alg values) :
    Cursor.ReadsLast (Cursor.secretParams alg) (SecretParams.plain values).write (.plain values) := by
  rw [SecretParams.write, ByteArray.append_assoc]
  unfold Cursor.secretParams
  refine Cursor.Reads.bindLast (Cursor.reads_u8 _) ?_
  have count : Cursor.plainSecret alg = Cursor.mpis values.length := by
    simp only [Cursor.plainSecret, fit.1]
  dsimp only
  rw [count]
  exact Cursor.Reads.bindLast (Cursor.reads_mpis fit.2)
    ((Cursor.reads_u16 (SecretParams.checksum_lt _)).map fun _ => SecretParams.plain values).readsLast

/-- The key packet of fresh material: the version, the time, the algorithm code and at most
three public numbers. -/
theorem FreshKey.Fits.size_body {f : FreshKey} (fits : f.Fits) (created : Nat) :
    (f.keyPacket created).body.size ≤ 6 + 3 * 8194 := by
  have params := fits.paramsShort
  have head : (ByteArray.mk #[(f.keyPacket created).version.toUInt8]).size = 1 := rfl
  have code : (ByteArray.mk #[(f.keyPacket created).algorithm.toNat.toUInt8]).size = 1 := rfl
  have old : ¬ (f.keyPacket created).version < 4 := Nat.lt_irrefl 4
  simp only [KeyPacket.body, if_neg old, ByteArray.size_append, Bytes.u32, Bytes.size_ofNatBE, head, code]
  change 1 + 4 + 1 + f.params.write.size ≤ 6 + 3 * 8194
  omega

/-- The secret key packet of fresh material with its numbers in the clear reads back once
written, as a primary key or as a subkey. -/
theorem FreshKey.Fits.rereads_plainSecretKey {f : FreshKey} (fits : f.Fits) {created : Nat}
    (time : created < Nat.pow 2 32) :
    (Packet.secretKey ⟨f.keyPacket created, .plain f.secret⟩).Rereads ∧
      (Packet.secretSubkey ⟨f.keyPacket created, .plain f.secret⟩).Rereads := by
  have pub := Cursor.reads_keyPacket (k := f.keyPacket created) rfl rfl time fits.named fits.params
  refine Packet.rereads_secretKey (Cursor.readsLast_secretKeyPacket (k := ⟨f.keyPacket created, .plain f.secret⟩)
    pub (Cursor.readsLast_plainSecret fits.secret)) ?_
  -- the public part, the usage byte, at most four secret numbers and their checksum
  have body := fits.size_body created
  have values := SecretParams.size_writeValues_le fits.secret.2
  have count := PublicKeyAlgorithm.secretCount_le fits.secret.1
  have usage : (ByteArray.mk #[0]).size = 1 := rfl
  have four : Nat.pow 2 32 = 4294967296 := rfl
  simp only [SecretKeyPacket.body, SecretParams.write, ByteArray.size_append, Bytes.u16, Bytes.size_ofNatBE, usage,
    Header.maxBodyLength, four]
  omega

/-- A key whose primary secret is in the clear holds the secret of its public primary material,
when it unlocks and its numbers open what is sealed to its key packet. -/
theorem Key.holdsSecret_primary {k : Key} {values : List Mpi} {passphrase : String}
    (plain : k.primarySecret = some (.plain values)) (unlocks : ∃ k', k.unlock passphrase = .ok k')
    (opens : k.primary.Opens values) : k.HoldsSecret k.toPublic.primaryMaterial passphrase where
  unlocks := unlocks
  material := by
    have same : k.toPublic.primaryMaterial.keyId = k.primaryMaterial.keyId := rfl
    refine ⟨k.primaryMaterial, .plain values, ?_, rfl, plain, fun opened unlocked => ?_⟩
    · rw [Key.findMaterial_eq, same, if_pos (Bytes.equal_iff.mpr rfl)]
    · simp only [SecretParams.unlock, Except.ok.injEq] at unlocked
      exact unlocked ▸ opens

/-! ## The key -/

namespace SampleKey

/-- The first prime, `2 ^ 114 * 3 ^ 43 + 1`. -/
def p : Nat := 6817630482379296839789627670380091754348718255681568769

/-- The second prime, `2 ^ 149 * 3 ^ 21 + 1`. -/
def q : Nat := 7464757486935573589508770335110493298297092741147918337

/-- The modulus, of 365 bits and so 46 bytes. -/
def n : Nat := 50891958186501042198579773966500499282005777212646741706337259753341668185055498092728461173224164282861617153

def e : Nat := 65537

/-- The private exponent, the inverse of `e` modulo the least common multiple of `p - 1` and `q - 1`. -/
def d : Nat := 28080072468412981568395399749629579195989010905270546995473219585

/-- The inverse of `p` modulo `q`. -/
def u : Nat := 4898140819952362113456108898712741070887454332240864582

set_option maxRecDepth 20000 in
theorem p_prime : p.Prime :=
  prime_of_lucas_smooth (a := 13) (i := 114) (j := 43) (by decide) (by decide)
    (by rw [← Modular.powModBits_eq 190 _ _ _ (by decide)]; decide)
    (by rw [← Modular.powModBits_eq 190 _ _ _ (by decide)]; decide)
    (by rw [← Modular.powModBits_eq 190 _ _ _ (by decide)]; decide)

set_option maxRecDepth 20000 in
theorem q_prime : q.Prime :=
  prime_of_lucas_smooth (a := 5) (i := 149) (j := 21) (by decide) (by decide)
    (by rw [← Modular.powModBits_eq 190 _ _ _ (by decide)]; decide)
    (by rw [← Modular.powModBits_eq 190 _ _ _ (by decide)]; decide)
    (by rw [← Modular.powModBits_eq 190 _ _ _ (by decide)]; decide)

theorem consistent : Rsa.Consistent n e d p q where
  prime_left := p_prime
  prime_right := q_prime
  distinct := by decide
  modulus := by decide
  inverse_left := by decide
  inverse_right := by decide

/-- The key material: RSA, with the secret exponent, the primes and the inverse. -/
def material : FreshKey :=
  { algorithm := .rsa, params := .rsa (Mpi.ofNat n) (Mpi.ofNat e),
    secret := [Mpi.ofNat d, Mpi.ofNat p, Mpi.ofNat q, Mpi.ofNat u] }

/-- The key packet, made at 1700000000. -/
def packet : KeyPacket := material.keyPacket 1700000000

/-- The private key: the key packet with its secret numbers in the clear, no user ids and no
subkeys, as validation leaves it. -/
def key : Key :=
  { primary := packet, primarySecret := some (.plain material.secret),
    revocations := [], directSignatures := [], users := [], attributes := [], subkeys := [],
    issues := ["key has no user ids"] }

theorem fits : material.Fits where
  named := rfl
  params := Cursor.reads_publicParams_rsa (.inl rfl) (Mpi.canonical_ofNat_of_log2 (by decide))
    (Mpi.canonical_ofNat_of_log2 (by decide))
  paramsShort := by
    have modulus := Mpi.size_write_le (Mpi.canonical_ofNat_of_log2 (n := n) (by decide))
    have exponent := Mpi.size_write_le (Mpi.canonical_ofNat_of_log2 (n := e) (by decide))
    simp only [material, PublicParams.write, ByteArray.size_append]
    omega
  secret := by
    refine ⟨rfl, ?_⟩
    simp only [material, List.mem_cons, List.not_mem_nil, or_false]
    rintro m (rfl | rfl | rfl | rfl) <;> exact Mpi.canonical_ofNat_of_log2 (by decide)

theorem settled : key.Settled where
  validated := by with_unfolding_all rfl
  revocationsTyped := fun _ member => absurd member List.not_mem_nil
  directTyped := fun _ member => absurd member List.not_mem_nil
  usersSigned := fun _ member => absurd member List.not_mem_nil
  attributesSigned := fun _ member => absurd member List.not_mem_nil
  publicSubkeysFirst := rfl

theorem rereads (secret : Bool) : ∀ p ∈ key.packets secret, p.Rereads := by
  intro p member
  cases secret
  all_goals
    simp [Key.packets, Key.primaryPacket, key, Key.partPackets, signaturePackets] at member
    subst member
  case false => exact (fits.rereads_publicKey (by decide)).1
  case true => exact (fits.rereads_plainSecretKey (by decide)).1

/-- The public key, armored. -/
def publicText : String := String.join ([key].map Key.armorPublic)

/-- The private key, armored. -/
def privateText : String := String.join ([key].map fun k => Armor.write .privateKey [] (k.write true))

theorem parse_publicText : KeyRing.parse publicText.toUTF8 = .ok ⟨[key.toPublic]⟩ :=
  KeyRing.parse_armoredPublic [key] (List.cons_ne_nil _ _) (by simpa using settled) (by simpa using rereads false)

theorem parse_privateText : KeyRing.parse privateText.toUTF8 = .ok ⟨[key]⟩ :=
  (KeyRing.parse_armoredPrivate [key] (List.cons_ne_nil _ _) (by simpa using settled)
    (by simp [key, Key.isPrivate]) (by simpa using rereads true)).2

set_option maxRecDepth 20000 in
theorem keyId_named : packet.keyId.toList.all (· == 0) = false := by
  decide +kernel

/-- The key has no self-signature, so nothing limits its primary key: its public half receives
session keys with it at every time. -/
theorem encryptionKey (at_ : Int) : key.toPublic.encryptionKey at_ = some key.toPublic.primaryMaterial := by
  have unsigned : key.toPublic.primarySelfSignature = none := rfl
  have unrevoked : key.toPublic.revoked = false := rfl
  have noSubkeys : key.toPublic.subkeys = [] := rfl
  have encrypts : key.toPublic.primaryMaterial.canEncrypt = true := rfl
  simp [Key.encryptionKey, Key.isExpired, Key.expirationTime, unsigned, unrevoked, noSubkeys, encrypts, lastMaxBy]

theorem coherent : packet.Coherent :=
  ⟨fun _ _ _ => .inl rfl, fun _ _ _ _ params => by cases params⟩

/-- The modulus passes the checks and has room for every session key. -/
theorem seals : key.toPublic.primaryMaterial.Seals :=
  Material.seals_rsa (n := Mpi.ofNat n) (e := Mpi.ofNat e) rfl rfl
    (by rw [Mpi.toNat_ofNat, Mpi.toNat_ofNat]; decide +kernel) (by rw [Mpi.toNat_ofNat]; decide)

theorem opens : packet.Opens material.secret :=
  KeyPacket.opens_of_rsaSecret ⟨Mpi.ofNat n, Mpi.ofNat e, Mpi.ofNat d, Mpi.ofNat p, Mpi.ofNat q, [Mpi.ofNat u],
    rfl, rfl, by simpa only [Mpi.toNat_ofNat] using consistent⟩

theorem holdsSecret (passphrase : String) : key.HoldsSecret key.toPublic.primaryMaterial passphrase :=
  Key.holdsSecret_primary rfl ⟨key, Key.unlock_of_unlocked rfl passphrase⟩ opens

/-- The public half alone receives session keys at every time. -/
theorem receives (at_ : Int) : (⟨[key.toPublic]⟩ : KeyRing).Receives at_ where
  nonempty := List.cons_ne_nil _ _
  encryption := by
    intro k member
    rw [List.mem_singleton.mp member]
    exact ⟨_, encryptionKey at_, coherent, keyId_named, seals⟩

/-- The private key alone holds the secret its public half receives with, under every passphrase. -/
theorem holdsSecrets (at_ : Int) (passphrase : String) :
    (⟨[key]⟩ : KeyRing).HoldsSecretsOf ⟨[key.toPublic]⟩ at_ passphrase where
  holder := by
    refine ⟨[], key, [], rfl, fun _ none => absurd none List.not_mem_nil,
      ⟨key.toPublic, List.mem_singleton_self _, _, encryptionKey at_, holdsSecret passphrase⟩, ?_⟩
    intro r member m chosen _
    rw [List.mem_singleton.mp member, encryptionKey at_, Option.some.injEq] at chosen
    exact chosen ▸ holdsSecret passphrase

end SampleKey

end SealedMail
