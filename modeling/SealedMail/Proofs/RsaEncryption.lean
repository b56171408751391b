import Mathlib
import SealedMail.Proofs.PacketBodies
import SealedMail.Proofs.OutputSizes
import SealedMail.Proofs.SignedEntity
import SealedMail.Key.Secret

/-! # RSA decryption undoes RSA encryption

Encryption pads the message to the size of the modulus as `00 02 ‖ nonzero bytes ‖ 00 ‖ message`,
reads that block as a number and raises it to the public exponent; decryption raises the
ciphertext to the private exponent, checks the two leading bytes and returns what follows the
first zero byte after them.

When the modulus is the product of two distinct primes and the two exponents are inverse modulo
each prime less one (`Rsa.Consistent`), raising to one exponent and then the other gives every
number below the modulus back (Fermat's little theorem for each prime, then the Chinese
remainder theorem). The padded block starts with a zero byte, so it is below the modulus; its
padding holds no zero byte, so the first zero after the leading two bytes is the separator. So a
session key message sealed to RSA material opens again with secret numbers that fit it
(`KeyPacket.decryptSession_encryptSession_rsa`).
-/

namespace SealedMail

/-! ## Modular exponentiation -/

namespace Modular

/-- Square-and-multiply computes the power modulo `m`. -/
theorem powMod_eq (b e m : Nat) : powMod b e m = b ^ e % m := by
  fun_induction powMod b e m with
  | case1 => simp
  | case2 b e nonzero r odd ih =>
    -- an odd exponent: the square to half the exponent, times the base
    have halves : e = 2 * (e / 2) + 1 := by omega
    simp only [r, ih]
    rw [← Nat.pow_mod, ← Nat.pow_two, ← Nat.pow_mul, ← Nat.mul_mod, ← Nat.pow_succ, Nat.succ_eq_add_one, ← halves]
  | case3 b e nonzero r even ih =>
    have halves : e = 2 * (e / 2) := by omega
    simp only [r, ih]
    rw [← Nat.pow_mod, ← Nat.pow_two, ← Nat.pow_mul, ← halves]

end Modular

/-! ## The arithmetic of a key -/

namespace Rsa

/-- The numbers of an RSA key that fit together: the modulus is the product of two distinct
primes, and the public and private exponents are inverse modulo each prime less one. -/
structure Consistent (n e d p q : Nat) : Prop where
  prime_left : p.Prime
  prime_right : q.Prime
  distinct : p ≠ q
  modulus : n = p * q
  inverse_left : e * d ≡ 1 [MOD p - 1]
  inverse_right : e * d ≡ 1 [MOD q - 1]

/-- A power whose exponent is one more than a multiple of `r - 1` is the base again modulo the
prime `r`: Fermat's little theorem, and divisibility by `r` for the multiples of `r`. -/
theorem pow_modEq_self {r k : Nat} (prime : r.Prime) (exponent : k ≡ 1 [MOD r - 1]) (positive : 1 ≤ k)
    (x : Nat) : x ^ k ≡ x [MOD r] := by
  obtain ⟨t, multiple⟩ := (Nat.modEq_iff_dvd' positive).mp exponent.symm
  have split : k = (r - 1) * t + 1 := by omega
  by_cases divides : r ∣ x
  · -- both sides are multiples of the prime
    have power : r ∣ x ^ k := dvd_pow divides (by omega)
    exact ((Nat.modEq_zero_iff_dvd).mpr power).trans ((Nat.modEq_zero_iff_dvd).mpr divides).symm
  · have coprime : x.Coprime r := (Nat.coprime_comm).mp ((Nat.Prime.coprime_iff_not_dvd prime).mpr divides)
    have fermat : x ^ (r - 1) ≡ 1 [MOD r] := by
      have euler := Nat.ModEq.pow_totient coprime
      rwa [Nat.totient_prime prime] at euler
    calc x ^ k = (x ^ (r - 1)) ^ t * x := by rw [split, Nat.pow_succ, Nat.pow_mul]
      _ ≡ 1 ^ t * x [MOD r] := (fermat.pow t).mul_right x
      _ = x := by rw [Nat.one_pow, Nat.one_mul]

namespace Consistent

variable {n e d p q : Nat} (key : Consistent n e d p q)
include key

/-- The product of the exponents is not zero: it is one modulo `q - 1` or `p - 1`, and one of
the two distinct primes is odd. -/
theorem one_le_exponents : 1 ≤ e * d := by
  by_contra zero
  have zero : e * d = 0 := by omega
  have left := key.inverse_left
  have right := key.inverse_right
  rw [zero] at left right
  -- `0 ≡ 1` modulo `r - 1` leaves `r = 2` for both primes
  have two : ∀ r, r.Prime → 0 ≡ 1 [MOD r - 1] → r = 2 := by
    intro r prime unit
    have divides := (Nat.modEq_iff_dvd' (Nat.zero_le 1)).mp unit
    have one : r - 1 = 1 := Nat.dvd_one.mp divides
    omega
  exact key.distinct ((two p key.prime_left left).trans (two q key.prime_right right).symm)

/-- Raising to both exponents is the identity modulo the modulus. -/
theorem pow_modEq (x : Nat) : x ^ (e * d) ≡ x [MOD n] := by
  have coprime : p.Coprime q := (Nat.coprime_primes key.prime_left key.prime_right).mpr key.distinct
  rw [key.modulus]
  exact (Nat.modEq_and_modEq_iff_modEq_mul coprime).mp
    ⟨pow_modEq_self key.prime_left key.inverse_left key.one_le_exponents x,
      pow_modEq_self key.prime_right key.inverse_right key.one_le_exponents x⟩

/-- Every number below the modulus comes back from encryption and decryption. -/
theorem powMod_powMod {x : Nat} (below : x < n) : Modular.powMod (Modular.powMod x e n) d n = x := by
  rw [Modular.powMod_eq, Modular.powMod_eq, ← Nat.pow_mod, ← Nat.pow_mul]
  exact Eq.trans (key.pow_modEq x) (Nat.mod_eq_of_lt below)

end Consistent

end Rsa

/-! ## Big-endian byte strings -/

namespace Bytes

theorem foldl_digits_cons (x : UInt8) (l : List UInt8) :
    (x :: l).foldl (fun a y => a * 256 + y.toNat) 0 = x.toNat * 256 ^ l.length + l.foldl (fun a y => a * 256 + y.toNat) 0 := by
  rw [List.foldl_cons, foldl_digits]
  simp

theorem foldl_digits_lt (l : List UInt8) : l.foldl (fun a y => a * 256 + y.toNat) 0 < 256 ^ l.length := by
  have bound := toNatBE_lt ⟨⟨l⟩⟩
  rwa [toNatBE_eq] at bound

/-- Byte strings of one length that spell the same number are equal. -/
theorem eq_of_toNatBE_eq {a b : ByteArray} (size : a.size = b.size) (same : toNatBE a = toNatBE b) : a = b := by
  rw [toNatBE_eq, toNatBE_eq] at same
  suffices lists : a.data.toList = b.data.toList by
    cases a; cases b
    simp_all
  have lengths : a.data.toList.length = b.data.toList.length := by simpa using size
  generalize a.data.toList = l at lengths same
  generalize b.data.toList = l' at lengths same
  induction l generalizing l' with
  | nil => exact (List.length_eq_zero_iff.mp lengths.symm).symm
  | cons x t ih =>
    cases l' with
    | nil => simp at lengths
    | cons y t' =>
      simp only [List.length_cons, Nat.add_right_cancel_iff] at lengths
      rw [foldl_digits_cons, foldl_digits_cons, ← lengths, Nat.mul_comm x.toNat, Nat.mul_comm y.toNat] at same
      -- the leading digit and the rest are the quotient and remainder by `256 ^ length`
      have base : 0 < 256 ^ t.length := by positivity
      have small := foldl_digits_lt t
      have small' := foldl_digits_lt t'
      rw [← lengths] at small'
      have high : x.toNat = y.toNat := by
        have := congrArg (· / 256 ^ t.length) same
        rwa [Nat.mul_add_div base, Nat.mul_add_div base, Nat.div_eq_of_lt small,
          Nat.div_eq_of_lt small', Nat.add_zero, Nat.add_zero] at this
      have low : t.foldl (fun a y => a * 256 + y.toNat) 0 = t'.foldl (fun a y => a * 256 + y.toNat) 0 := by
        have := congrArg (· % 256 ^ t.length) same
        rwa [Nat.mul_add_mod, Nat.mul_add_mod, Nat.mod_eq_of_lt small, Nat.mod_eq_of_lt small'] at this
      rw [UInt8.toNat_inj.mp high, ih t' lengths low]

@[simp] theorem size_ofList (l : List UInt8) : (ByteArray.mk l.toArray).size = l.length := by
  simp [ByteArray.size]

/-- A byte string is the big-endian form, at its own length, of the number it spells. -/
theorem ofNatBE_toNatBE (b : ByteArray) : ofNatBE (toNatBE b) b.size = b :=
  eq_of_toNatBE_eq (size_ofNatBE _ _) (by rw [toNatBE_ofNatBE, Nat.mod_eq_of_lt (toNatBE_lt b)])

end Bytes

/-! ## Padding -/

namespace Rsa

/-- The modulus lies between the powers of 256 its byte size falls between. -/
theorem modulusBytes_bounds {n : Nat} (positive : 0 < n) :
    256 ^ (modulusBytes n - 1) ≤ n ∧ n < 256 ^ modulusBytes n := by
  have low := Nat.log2_self_le (Nat.pos_iff_ne_zero.mp positive)
  have high := Nat.lt_log2_self (n := n)
  have pow256 : ∀ j, 256 ^ j = 2 ^ (8 * j) := fun j => by rw [Nat.pow_mul]
  unfold modulusBytes
  rw [pow256, pow256]
  constructor
  · exact le_trans (Nat.pow_le_pow_right (by omega) (by omega)) low
  · exact lt_of_lt_of_le high (Nat.pow_le_pow_right (by omega) (by omega))

/-- The padded block of a message: the two leading bytes, the padding, a zero and the message. -/
def block (ps : List UInt8) (msg : ByteArray) : ByteArray :=
  ByteArray.mk #[0, 2] ++ ⟨ps.toArray⟩ ++ ByteArray.mk #[0] ++ msg

theorem size_block (ps : List UInt8) (msg : ByteArray) : (block ps msg).size = ps.length + msg.size + 3 := by
  simp [block, ByteArray.size_append]
  omega

/-- A block starts with a zero byte, so it spells a number below `256 ^ (size - 1)`. -/
theorem toNatBE_block_lt (ps : List UInt8) (msg : ByteArray) :
    Bytes.toNatBE (block ps msg) < 256 ^ (ps.length + msg.size + 2) := by
  have split : block ps msg = ByteArray.mk #[0] ++ (ByteArray.mk #[2] ++ ⟨ps.toArray⟩ ++ ByteArray.mk #[0] ++ msg) := by
    simp only [block, ByteArray.append_assoc]
    rfl
  have rest : (ByteArray.mk #[2] ++ ⟨ps.toArray⟩ ++ ByteArray.mk #[0] ++ msg).size = ps.length + msg.size + 2 := by
    simp [ByteArray.size_append]
    omega
  rw [split, Bytes.toNatBE_append, rest]
  have zero : Bytes.toNatBE (ByteArray.mk #[0]) = 0 := rfl
  rw [zero, Nat.zero_mul, Nat.zero_add, ← rest]
  exact Bytes.toNatBE_lt _

/-- Unpadding a block whose padding has no zero byte, and at least eight bytes, gives the message. -/
theorem unpad_block {ps : List UInt8} (nonzero : ∀ x ∈ ps, x ≠ 0) (long : 8 ≤ ps.length) (msg : ByteArray) :
    (block ps msg).get! 0 = 0 ∧ (block ps msg).get! 1 = 2 ∧
      Bytes.indexOfFrom (block ps msg) 0 2 = some (2 + ps.length) ∧
      (block ps msg).extract (2 + ps.length + 1) (block ps msg).size = msg := by
  have listed : (block ps msg).data.toList = 0 :: 2 :: (ps ++ 0 :: msg.data.toList) := by
    simp [block, ByteArray.data_append]
  have drop2 : (block ps msg).data.toList.drop 2 = ps ++ 0 :: msg.data.toList := by
    rw [listed]
    rfl
  refine ⟨?_, ?_, Bytes.indexOfFrom_of_drop drop2 (fun mem => nonzero 0 mem rfl), ?_⟩
  · rw [Bytes.get!_eq_iff (by rw [size_block]; omega), listed]
    rfl
  · rw [Bytes.get!_eq_iff (by rw [size_block]; omega), listed]
    rfl
  · have front : (ByteArray.mk #[0, 2] ++ ⟨ps.toArray⟩ ++ ByteArray.mk #[0]).size = 2 + ps.length + 1 := by
      simp [ByteArray.size_append]
    exact ByteArray.extract_append_eq_right front.symm (by rw [block, ByteArray.size_append, front])

variable {n e d : Nat} {msg pad c : ByteArray}

/-- What encryption makes, when it succeeds: the block of the message with the first nonzero
padding bytes, raised to the public exponent, at the modulus size. -/
theorem encrypt_eq_ok (enc : encrypt n e msg pad = .ok c) :
    checkPublic n e = .ok () ∧ msg.size + 11 ≤ modulusBytes n ∧
      c = Bytes.ofNatBE (Modular.powMod (Bytes.toNatBE (block ((pad.toList.filter (· != 0)).take
        (modulusBytes n - msg.size - 3)) msg)) e n) (modulusBytes n) := by
  unfold encrypt at enc
  cases checked : checkPublic n e with
  | error f => simp [checked, bind, Except.bind] at enc
  | ok u =>
    simp only [checked, bind, Except.bind] at enc
    by_cases long : msg.size + 11 > modulusBytes n
    · simp [long, throw, throwThe, MonadExceptOf.throw] at enc
    · simp only [long, if_false, pure, Except.pure, Except.ok.injEq] at enc
      exact ⟨rfl, by omega, enc.symm⟩

/-- RSA decryption with a private exponent that fits undoes encryption with padding bytes of
which enough are nonzero. -/
theorem decrypt_encrypt {p q : Nat} (key : Consistent n e d p q)
    (enough : modulusBytes n ≤ (pad.toList.filter (· != 0)).length) (enc : encrypt n e msg pad = .ok c) :
    decrypt n d (Mpi.ofBytes c).bytes = .ok msg := by
  obtain ⟨checked, short, rfl⟩ := encrypt_eq_ok enc
  have positive : 0 < n := by
    rw [key.modulus]
    exact Nat.mul_pos key.prime_left.pos key.prime_right.pos
  obtain ⟨low, high⟩ := modulusBytes_bounds positive
  set k := modulusBytes n
  set ps := (pad.toList.filter (· != 0)).take (k - msg.size - 3)
  have psLength : ps.length = k - msg.size - 3 := by simp [ps, List.length_take]; omega
  have nonzero : ∀ x ∈ ps, x ≠ 0 := fun x mem => by
    have kept := (List.mem_filter.mp (List.mem_of_mem_take mem)).2
    simpa using kept
  -- the block is below the modulus, so encryption and decryption give its number back
  have below : Bytes.toNatBE (block ps msg) < n := by
    have bound := toNatBE_block_lt ps msg
    rw [show ps.length + msg.size + 2 = k - 1 by omega] at bound
    omega
  have sized : (block ps msg).size = k := by rw [size_block]; omega
  have sealed : Modular.powMod (Bytes.toNatBE (block ps msg)) e n < n := by
    rw [Modular.powMod_eq]
    exact Nat.mod_lt _ positive
  have number : Bytes.toNatBE (Mpi.ofBytes (Bytes.ofNatBE (Modular.powMod (Bytes.toNatBE (block ps msg)) e n) k)).bytes =
      Modular.powMod (Bytes.toNatBE (block ps msg)) e n := by
    rw [Mpi.ofBytes, Mpi.toNatBE_strip, Bytes.toNatBE_ofNatBE, Nat.mod_eq_of_lt (by omega)]
  have fits : (Mpi.ofBytes (Bytes.ofNatBE (Modular.powMod (Bytes.toNatBE (block ps msg)) e n) k)).bytes.size ≤ k := by
    have := Mpi.size_strip_le (Bytes.ofNatBE (Modular.powMod (Bytes.toNatBE (block ps msg)) e n) k)
    rwa [Bytes.size_ofNatBE] at this
  have opened : Bytes.ofNatBE (Modular.powMod (Modular.powMod (Bytes.toNatBE (block ps msg)) e n) d n) k =
      block ps msg := by
    rw [key.powMod_powMod below, ← sized, Bytes.ofNatBE_toNatBE]
  obtain ⟨zero, two, found, rest⟩ := unpad_block nonzero (by omega) msg
  unfold decrypt
  rw [show modulusBytes n = k from rfl]
  simp only [number, show ¬ (Mpi.ofBytes (Bytes.ofNatBE (Modular.powMod (Bytes.toNatBE (block ps msg)) e n) k)).bytes.size > k
    by omega, show ¬ Modular.powMod (Bytes.toNatBE (block ps msg)) e n ≥ n by omega, Bool.or_false, decide_false,
    opened, zero, two, found, rest, bne_self_eq_false, bind, Except.bind, pure, Except.pure]
  simp [show ¬ 2 + ps.length < 10 by omega]

end Rsa

/-! ## Session keys sealed to RSA material -/

namespace KeyPacket

/-- Secret numbers that fit an RSA key packet: the private exponent, then the two primes,
consistent with the modulus and public exponent. -/
def RsaSecret (k : KeyPacket) (values : List Mpi) : Prop :=
  ∃ n e d p q rest, k.params = .rsa n e ∧ values = d :: p :: q :: rest ∧
    Rsa.Consistent n.toNat e.toNat d.toNat p.toNat q.toNat

/-- A session key message sealed to an RSA key packet opens with secret numbers that fit it. -/
theorem decryptSession_encryptSession_rsa {k : KeyPacket} {values : List Mpi} (secret : k.RsaSecret values)
    {msg : ByteArray} {g : Entropy} {session : EncryptedSession} {g' : Entropy}
    (sealed : k.encryptSession msg g = .ok (session, g')) : k.decryptSession values session = .ok msg := by
  obtain ⟨n, e, d, p, q, rest, params, rfl, key⟩ := secret
  unfold encryptSession at sealed
  rw [params] at sealed
  simp only at sealed
  obtain ⟨enough, nonzero⟩ := Entropy.nonzeroBytes_spec g (Rsa.modulusBytes n.toNat)
  cases enc : Rsa.encrypt n.toNat e.toNat msg (g.nonzeroBytes (Rsa.modulusBytes n.toNat)).1 with
  | error f => simp [enc] at sealed
  | ok c =>
    simp only [enc, Except.ok.injEq, Prod.mk.injEq] at sealed
    obtain ⟨rfl, -⟩ := sealed
    -- every padding byte is nonzero, so the filter keeps them all
    have kept : ((g.nonzeroBytes (Rsa.modulusBytes n.toNat)).1.toList.filter (· != 0)).length =
        (g.nonzeroBytes (Rsa.modulusBytes n.toNat)).1.size := by
      rw [List.filter_eq_self.mpr (fun x mem => by
        have := nonzero x (by rwa [Bytes.toList_eq] at mem)
        simpa using this), Bytes.toList_eq]
      simp
    have opened := Rsa.decrypt_encrypt key (by omega) enc
    simp [decryptSession, params, opened]

end KeyPacket

end SealedMail
