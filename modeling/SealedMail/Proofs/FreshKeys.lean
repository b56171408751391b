import Mathlib
import SealedMail.Proofs.KeyMaterialPackets
import SealedMail.Proofs.KeyLocking

/-! # Fresh key material

What the key generators hand to assembly, read as packets will hold it. Ed25519 and
Curve25519 material from any entropy, and RSA material whenever the primes pass the checks
(`FreshKey.rsaOfPrimes_eq_ok`) or the random search ends with a key
(`FreshKey.rsaRandom_eq_ok`), has a key packet whose numbers read back once written, secret
numbers as many as its algorithm has and each written as packets hold numbers, and, for the
signing half, signature numbers that read back too. So every key that is generated or built
from primes is assembled from such material (`KeyMaker.generate_eq_ok`,
`KeyMaker.fromPrimes_eq_ok`).

The RSA bounds all come from the modulus, which has at most 4096 bits: both primes are below
it, and the private exponent and the CRT coefficient are residues (`Modular.inverse?_lt`)
modulo numbers no larger than it.
-/

namespace SealedMail

/-! ## Residues and bit lengths -/

namespace Modular

theorem inverse?_go_zero (a : Int) (fuel : Nat) : inverse?.go a 0 fuel = (a, 1, 0) := by
  cases fuel <;> simp [inverse?.go]

/-- An inverse modulo `m` is a residue modulo `m`; modulo zero only one has an inverse, itself. -/
theorem inverse?_lt {a m x : Nat} (h : inverse? a m = some x) : x < max m 2 := by
  rcases Nat.eq_zero_or_pos m with rfl | pos
  · simp [inverse?, inverse?_go_zero] at h
    omega
  · unfold inverse? at h
    split at h
    rename_i g inv _ _
    split_ifs at h
    obtain rfl := Option.some.inj h
    have low := Int.emod_nonneg inv (show (m : Int) ≠ 0 by omega)
    have high := Int.emod_lt_of_pos inv (show (0 : Int) < m by omega)
    omega

end Modular

theorem lt_two_pow_of_bitLength_le {n k : Nat} (h : bitLength n ≤ k) : n < 2 ^ k := by
  unfold bitLength at h
  split_ifs at h with zero
  · rw [zero]
    exact Nat.two_pow_pos k
  · calc n < 2 ^ (Nat.log2 n + 1) := Nat.lt_log2_self
      _ ≤ 2 ^ k := Nat.pow_le_pow_right (by decide) h

theorem Mpi.toNat_ofNat (n : Nat) : (ofNat n).toNat = n := by
  simp only [ofNat, toNat, Bytes.ofNatMinimal, Bytes.toNatBE_ofNatBE]
  rcases Nat.eq_zero_or_pos n with rfl | pos
  · rfl
  apply Nat.mod_eq_of_lt
  rw [if_neg pos.ne', show (256 : Nat) = 2 ^ 8 by rfl, ← pow_mul]
  calc n < 2 ^ (Nat.log2 n + 1) := Nat.lt_log2_self
    _ ≤ 2 ^ (8 * (Nat.log2 n / 8 + 1)) := Nat.pow_le_pow_right (by decide) (by omega)

/-- A number of at most 65528 bits is, in its minimal form, a number as packets hold it. -/
theorem Mpi.canonical_ofNat_of_lt {n k : Nat} (small : n < 2 ^ k) (le : k ≤ 65528) : (ofNat n).Canonical :=
  canonical_ofNat (lt_of_lt_of_le small (pow_le_pow_right₀ (by decide) le))

/-- A number no larger than one of at most 4096 bits is, in its minimal form, a number as
packets hold it. -/
theorem Mpi.canonical_ofNat_of_le {n N : Nat} (le : n ≤ N) (short : bitLength N ≤ 4096) : (ofNat n).Canonical :=
  canonical_ofNat_of_lt (lt_of_le_of_lt le (lt_two_pow_of_bitLength_le short)) (by decide)

theorem Modular.getD_inverse?_le {a m : Nat} (pos : 0 < m) : (inverse? a m).getD 0 ≤ m := by
  cases found : inverse? a m with
  | none => exact Nat.zero_le m
  | some x =>
    have := inverse?_lt found
    simp only [Option.getD_some]
    omega

theorem Rsa.size_sign {n d : Nat} {hash : HashCode} {digest s : ByteArray} (h : Rsa.sign n d hash digest = .ok s) :
    s.size = Rsa.modulusBytes n := by
  unfold Rsa.sign at h
  dsimp only at h
  split at h
  · simp [throw, throwThe, MonadExceptOf.throw] at h
  · simp only [pure, Except.pure, Except.ok.injEq] at h
    rw [← h, Bytes.size_ofNatBE]

/-! ## Sizes of written numbers -/

theorem PublicParams.size_writeCurve (c : Curve) : (PublicParams.writeCurve c).size < 257 := by
  have short := (Curve.ofOid?_oid c).2
  simp only [PublicParams.writeCurve, ByteArray.size_append]
  have : (ByteArray.mk #[c.oid.size.toUInt8]).size = 1 := rfl
  omega

namespace SecretParams

theorem size_writeValues_le {values : List Mpi} (canon : ∀ m ∈ values, m.Canonical) :
    (writeValues values).size ≤ 8194 * values.length := by
  induction values with
  | nil => simp [writeValues]
  | cons m rest ih =>
    rw [writeValues_cons, ByteArray.size_append, List.length_cons]
    have head := Mpi.size_write_le (canon m List.mem_cons_self)
    have tail := ih fun m' member => canon m' (List.mem_cons_of_mem m member)
    omega

end SecretParams

/-! ## Material that fits packets -/

namespace FreshKey

/-- The key packet of fresh material created at a time. -/
def keyPacket (f : FreshKey) (created : Nat) : KeyPacket :=
  { created, algorithm := f.algorithm, params := f.params }

/-- Fresh material as packets hold it: its algorithm code names it, its public numbers read
back once written and fit a few thousand bytes, and its secret numbers read back too. -/
structure Fits (f : FreshKey) : Prop where
  named : PublicKeyAlgorithm.ofNat f.algorithm.toNat.toUInt8.toNat = f.algorithm
  params : Cursor.Reads (Cursor.publicParams f.algorithm) f.params.write f.params
  paramsShort : f.params.write.size ≤ 3 * 8194
  secret : SecretParams.CanonicalValues f.algorithm f.secret

/-- Whatever digest the material signs, the signature numbers are as many as its algorithm
writes and each a number as packets hold it. -/
def SignsFitting (f : FreshKey) : Prop :=
  ∀ created hash digest vs, (f.keyPacket created).signDigest f.secret hash digest = .ok vs →
    Signature.ValuesFit f.algorithm vs

/-- Material a primary key can be made of: it fits packets and signs with fitting numbers. -/
structure Signing (f : FreshKey) : Prop where
  fits : f.Fits
  signs : f.SignsFitting
  canSign : f.algorithm.canSign = true

/-- Material an encryption subkey can be made of. -/
structure Encrypting (f : FreshKey) : Prop where
  fits : f.Fits
  canEncrypt : f.algorithm.canEncrypt = true

theorem ed25519_fst (g : Entropy) : (ed25519 g).1 =
    ⟨.eddsa, .eddsa .ed25519 (Mpi.ofBytes (ByteArray.mk #[0x40] ++ Ed25519.publicKey (g.bytes 32).1)),
      [Mpi.ofBytes (g.bytes 32).1]⟩ := rfl

theorem curve25519_fst (g : Entropy) : (curve25519 g).1 =
    ⟨.ecdh, .ecdh .curve25519 (Mpi.ofBytes (ByteArray.mk #[0x40] ++ X25519.publicOf (g.bytes 32).1)) .sha256 .aes128,
      [Mpi.ofNat (X25519.clamp (g.bytes 32).1)]⟩ := rfl

/-- A point written with its prefix byte is a number as packets hold it. -/
theorem canonical_point {b : ByteArray} (size : b.size = 32) : (Mpi.ofBytes (ByteArray.mk #[0x40] ++ b)).Canonical := by
  apply Mpi.canonical_ofBytes
  rw [ByteArray.size_append, size]
  decide

theorem ed25519_signing (g : Entropy) : (ed25519 g).1.Signing := by
  have seed := Entropy.size_bytes g 32
  have point := canonical_point (b := Ed25519.publicKey (g.bytes 32).1) (Ed25519.size_leBytes _ _)
  rw [ed25519_fst]
  refine ⟨⟨rfl, Cursor.reads_publicParams_eddsa .ed25519 point, ?_, ⟨rfl, ?_⟩⟩, ?_, rfl⟩
  · have curve := PublicParams.size_writeCurve .ed25519
    have number := Mpi.size_write_le point
    simp only [PublicParams.write, ByteArray.size_append]
    omega
  · simp only [List.mem_singleton, forall_eq]
    exact Mpi.canonical_ofBytes (by omega)
  · intro created hash digest vs signed
    simp only [keyPacket, KeyPacket.signDigest, Except.ok.injEq] at signed
    subst signed
    refine ⟨?_, by simp⟩
    simp only [List.mem_cons, List.not_mem_nil, or_false]
    rintro m (rfl | rfl) <;> exact Mpi.canonical_ofBytes (by simp only [ByteArray.size_extract]; omega)

theorem curve25519_encrypting (g : Entropy) : (curve25519 g).1.Encrypting := by
  have point := canonical_point (b := X25519.publicOf (g.bytes 32).1) (X25519.size_publicOf _)
  rw [curve25519_fst]
  refine ⟨⟨rfl, Cursor.reads_publicParams_ecdh .curve25519 point rfl rfl, ?_, ⟨rfl, ?_⟩⟩, rfl⟩
  · have curve := PublicParams.size_writeCurve .curve25519
    have number := Mpi.size_write_le point
    simp only [PublicParams.write, ByteArray.size_append]
    have : (ByteArray.mk #[3, 1, HashCode.sha256.toNat.toUInt8, CipherCode.aes128.toNat.toUInt8]).size = 4 := rfl
    omega
  · simp only [List.mem_singleton, forall_eq]
    have scalar : X25519.clamp (g.bytes 32).1 < 2 ^ 255 := by
      have : Nat.pow 2 254 = 2 ^ 254 := rfl
      simp only [X25519.clamp, this]
      omega
    exact Mpi.canonical_ofNat_of_lt scalar (by decide)

theorem rsa_eq (p q d : Nat) : rsa p q d = ⟨.rsa, .rsa (Mpi.ofNat (p * q)) (Mpi.ofNat rsaExponent),
    [Mpi.ofNat d, Mpi.ofNat (min p q), Mpi.ofNat (max p q),
      Mpi.ofNat ((Modular.inverse? (min p q) (max p q)).getD 0)]⟩ := by
  unfold rsa
  split_ifs with lt
  · rw [min_eq_left lt.le, max_eq_right lt.le]
  · rw [min_eq_right (not_lt.mp lt), max_eq_left (not_lt.mp lt)]

/-- RSA material of two positive primes whose modulus has at most 4096 bits, and a private
exponent no larger than the modulus, signs and encrypts. -/
theorem rsa_signing_encrypting {p q d : Nat} (hp : 0 < p) (hq : 0 < q) (modulus : bitLength (p * q) ≤ 4096)
    (exponent : d ≤ p * q) : (rsa p q d).Signing ∧ (rsa p q d).Encrypting := by
  have larger : max p q ≤ p * q := by
    rcases le_total p q with le | le
    · rw [max_eq_right le]
      exact Nat.le_mul_of_pos_left q hp
    · rw [max_eq_left le]
      exact Nat.le_mul_of_pos_right p hq
  have number : ∀ n, n ≤ p * q → (Mpi.ofNat n).Canonical := fun n le => Mpi.canonical_ofNat_of_le le modulus
  have modulusNumber := number (p * q) le_rfl
  have exponentNumber : (Mpi.ofNat rsaExponent).Canonical :=
    Mpi.canonical_ofNat_of_le (N := rsaExponent) le_rfl (by decide)
  have fits : (rsa p q d).Fits := by
    rw [rsa_eq]
    refine ⟨rfl, Cursor.reads_publicParams_rsa (.inl rfl) modulusNumber exponentNumber, ?_, ⟨rfl, ?_⟩⟩
    · have := Mpi.size_write_le modulusNumber
      have := Mpi.size_write_le exponentNumber
      simp only [PublicParams.write, ByteArray.size_append]
      omega
    · simp only [List.mem_cons, List.not_mem_nil, or_false]
      rintro m (rfl | rfl | rfl | rfl)
      · exact number d exponent
      · exact number _ (min_le_max.trans larger)
      · exact number _ larger
      · exact number _ ((Modular.getD_inverse?_le (by omega)).trans larger)
  refine ⟨⟨fits, ?_, rfl⟩, ⟨fits, rfl⟩⟩
  intro created hash digest vs signed
  simp only [keyPacket, rsa_eq, KeyPacket.signDigest] at signed
  split at signed
  · rename_i s signature
    simp only [Except.ok.injEq] at signed
    subst signed
    have size := Rsa.size_sign signature
    rw [Mpi.toNat_ofNat] at size
    refine ⟨?_, by simp [rsa_eq]⟩
    simp only [List.mem_singleton, forall_eq]
    apply Mpi.canonical_ofBytes
    -- the signature has as many bytes as the modulus, at most 512
    have nonzero : p * q ≠ 0 := Nat.mul_ne_zero hp.ne' hq.ne'
    simp only [bitLength, nonzero, if_false] at modulus
    rw [size, Rsa.modulusBytes]
    omega
  · simp at signed

/-- The private exponent is a residue modulo a number no larger than the modulus, so no larger
than the modulus itself. -/
theorem exponent_le_modulus {p q d m : Nat} (inverse : Modular.inverse? rsaExponent m = some d)
    (le : m ≤ p * q) (pos : 0 < p * q) : d ≤ p * q := by
  have := Modular.inverse?_lt inverse
  omega

theorem lcm_pred_le (p q : Nat) : Nat.lcm (p - 1) (q - 1) ≤ p * q := by
  have le : (p - 1) * (q - 1) ≤ p * q := Nat.mul_le_mul (Nat.sub_le p 1) (Nat.sub_le q 1)
  rcases Nat.eq_zero_or_pos ((p - 1) * (q - 1)) with zero | pos
  · rcases Nat.mul_eq_zero.mp zero with first | second
    · rw [first, Nat.lcm_zero_left]
      exact Nat.zero_le _
    · rw [second, Nat.lcm_zero_right]
      exact Nat.zero_le _
  · exact (Nat.le_of_dvd pos (Nat.lcm_dvd_mul _ _)).trans le

/-- What the RSA rules demand of two primes whose private exponent is given: distinct and
positive, the exponent the inverse of the public one modulo `lcm(p - 1, q - 1)` and modulo each
`p - 1`, and a modulus of exactly the asked size, at most 4096 bits. -/
theorem rsaPrivateExponent_eq_ok {bits p q d : Nat} (h : rsaPrivateExponent bits p q = .ok d) :
    p ≠ q ∧ 0 < p ∧ 0 < q ∧ Modular.inverse? rsaExponent (Nat.lcm (p - 1) (q - 1)) = some d ∧
      d * rsaExponent % (p - 1) = 1 ∧ d * rsaExponent % (q - 1) = 1 ∧ bitLength (p * q) = bits ∧
      bitLength (p * q) ≤ 4096 := by
  unfold rsaPrivateExponent at h
  dsimp only at h
  by_cases refused : (p == q || p == 0 || q == 0) = true
  · rw [if_pos refused] at h
    cases h
  rw [if_neg refused] at h
  simp only [Bool.or_eq_true, beq_iff_eq, not_or] at refused
  cases inverse : Modular.inverse? rsaExponent ((p - 1).lcm (q - 1)) with
  | none =>
    rw [inverse] at h
    cases h
  | some d' =>
    rw [inverse] at h
    dsimp only at h
    -- every check past the inverse passed
    split_ifs at h with large congruent sized
    obtain rfl := Except.ok.inj h
    simp only [Bool.or_eq_true, bne_iff_ne, ne_eq, not_or, not_not] at congruent
    simp only [bne_iff_ne, ne_eq, not_not] at sized
    exact ⟨refused.1.1, Nat.pos_of_ne_zero refused.1.2, Nat.pos_of_ne_zero refused.2, rfl, congruent.1,
      congruent.2, sized, not_lt.mp large⟩

/-- The material refuses two numbers exactly when the smaller has no inverse modulo the larger. -/
theorem ofRsa_eq (p q d : Nat) :
    ofRsa p q d = if (Modular.inverse? (min p q) (max p q)).isSome then .ok (rsa p q d)
      else .error (.keyGeneration "RSA primes have no CRT coefficient") := by
  unfold ofRsa
  by_cases lt : p < q
  · rw [if_pos lt, min_eq_left lt.le, max_eq_right lt.le]
  · rw [if_neg lt, min_eq_right (not_lt.mp lt), max_eq_left (not_lt.mp lt)]

/-- OpenPGP material of two primes is their RSA material, once the smaller prime has an inverse
modulo the larger. -/
theorem ofRsa_eq_ok {p q d : Nat} {f : FreshKey} (h : ofRsa p q d = .ok f) :
    f = rsa p q d ∧ (Modular.inverse? (min p q) (max p q)).isSome := by
  rw [ofRsa_eq] at h
  split_ifs at h with invertible
  exact ⟨(Except.ok.inj h).symm, invertible⟩

/-- Primes that pass the checks give RSA material that signs and encrypts. -/
theorem rsaOfPrimes_eq_ok {bits p q : Nat} {f : FreshKey} (h : rsaOfPrimes bits p q = .ok f) :
    f.Signing ∧ f.Encrypting := by
  obtain ⟨d, checked, made⟩ := Outcome.bind_eq_ok h
  obtain ⟨-, hp, hq, inverse, -, -, -, small⟩ := rsaPrivateExponent_eq_ok checked
  obtain ⟨rfl, -⟩ := ofRsa_eq_ok made
  exact rsa_signing_encrypting hp hq small (exponent_le_modulus inverse (lcm_pred_le p q) (Nat.mul_pos hp hq))

/-- A random RSA key, once found, is material that signs and encrypts. -/
theorem rsaRandom_eq_ok {bits fuel : Nat} {g g' : Entropy} {f : FreshKey} (sized : 0 < bits)
    (h : rsaRandom bits fuel g = .ok (f, g')) : f.Signing ∧ f.Encrypting := by
  -- a draw that is refused is drawn again: those cases are the induction hypothesis
  fun_induction rsaRandom bits fuel g with
  | case1 => simp at h
  | case2 => simp at h
  | case3 => simp at h
  | case4 _ _ _ _ _ _ _ _ _ ih => exact ih h
  | case5 => simp at h
  | case6 fuel g₀ g₁ p g₂ q accepted d inverse small _ _ =>
    obtain rfl := (Prod.mk.inj (Except.ok.inj h)).1
    simp only [Bool.or_eq_true, beq_iff_eq, bne_iff_ne, ne_eq, not_or, not_not] at accepted
    have pos : 0 < p * q := by
      rcases Nat.eq_zero_or_pos (p * q) with zero | pos
      · simp [bitLength, zero] at accepted
        omega
      · exact pos
    exact rsa_signing_encrypting (Nat.pos_of_mul_pos_right pos) (Nat.pos_of_mul_pos_left pos) (by omega)
      (exponent_le_modulus inverse (Nat.mul_le_mul (Nat.sub_le p 1) (Nat.sub_le q 1)) pos)
  | case7 _ _ _ _ _ _ _ _ _ _ ih => exact ih h

end FreshKey

/-! ## Keys are made of fresh material -/

namespace KeyMaker

variable {km : KeyMaker} {name domain passphrase : String} {g g' : Entropy} {K : Key}

/-- Every key that is generated is assembled from material that signs and material that
encrypts. -/
theorem generate_eq_ok {kind : String} {bits : Nat} (h : km.generate name domain passphrase kind bits g = .ok (K, g')) :
    ∃ primary subkey g₁, primary.Signing ∧ subkey.Encrypting ∧
      km.assemble (userIdOf name domain) primary subkey passphrase g₁ = .ok (K, g') := by
  unfold generate at h
  obtain ⟨parsed, -, made⟩ := Outcome.bind_eq_ok h
  cases parsed with
  | x25519 =>
    exact ⟨(FreshKey.ed25519 g).1, (FreshKey.curve25519 (FreshKey.ed25519 g).2).1, _,
      FreshKey.ed25519_signing g, FreshKey.curve25519_encrypting _, made⟩
  | rsa =>
    dsimp only at made
    -- a size below the minimum or beyond four bytes is refused before any prime is drawn
    generalize (if (bits == 0) = true then km.config.rsaBits else bits) = size at made
    by_cases few : size < minRsaBits
    · rw [if_pos few] at made
      cases made
    rw [if_neg few] at made
    by_cases many : size ≥ Nat.pow 2 32
    · rw [if_pos many] at made
      cases made
    rw [if_neg many] at made
    have sized : 0 < size := by
      simp only [minRsaBits] at few
      omega
    obtain ⟨⟨primary, g₁⟩, first, rest⟩ := Outcome.bind_eq_ok made
    obtain ⟨⟨subkey, g₂⟩, second, assembled⟩ := Outcome.bind_eq_ok rest
    exact ⟨primary, subkey, g₂, (FreshKey.rsaRandom_eq_ok sized first).1,
      (FreshKey.rsaRandom_eq_ok sized second).2, assembled⟩

/-- Every key built from given primes is assembled from material that signs and material that
encrypts. -/
theorem fromPrimes_eq_ok {bits : Nat} {p₁ p₂ p₃ p₄ : ByteArray}
    (h : km.fromPrimes name domain passphrase bits p₁ p₂ p₃ p₄ g = .ok (K, g')) :
    ∃ primary subkey, primary.Signing ∧ subkey.Encrypting ∧
      km.assemble (userIdOf name domain) primary subkey passphrase g = .ok (K, g') := by
  unfold fromPrimes at h
  obtain ⟨primary, first, rest⟩ := Outcome.bind_eq_ok h
  obtain ⟨subkey, second, assembled⟩ := Outcome.bind_eq_ok rest
  exact ⟨primary, subkey, (FreshKey.rsaOfPrimes_eq_ok first).1, (FreshKey.rsaOfPrimes_eq_ok second).2, assembled⟩

end KeyMaker

end SealedMail
