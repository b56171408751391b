import Mathlib
import SealedMail.Proofs.FreshKeys

/-! # RSA secret parameters in the OpenPGP order

OpenPGP stores an RSA secret key as `(d, p, q, u)` with `p < q` and `u = p⁻¹ mod q`. A key built
from given primes first passes the RSA rules, which give the private exponent `d`, the inverse of
the public exponent 65537 modulo `lcm(p - 1, q - 1)` (`rsaPrivateExponent`); its material then
puts the smaller number first and needs the inverse of it modulo the larger (`FreshKey.ofRsa`).

Both inverses come from the extended Euclidean algorithm. At every step, whatever the fuel, its
coefficients combine the two inputs into its first result (`Modular.inverse?_go_bezout`), and with
fuel above the second input that result is their greatest common divisor
(`Modular.inverse?_go_gcd`). So an inverse modulo `m` is found exactly for numbers coprime to `m`
(`Modular.isSome_inverse?_iff`), and it is one (`Modular.inverse?_spec`).

The RSA rules do not ask for primes, and two accepted numbers may share a factor: then no inverse
exists and the material is refused. Otherwise the material has the OpenPGP layout
(`rsa_material_of_accepted_primes`).
-/

namespace SealedMail

/-! ## Inverses by the extended Euclidean algorithm -/

namespace Modular

/-- Every step of the extended Euclidean algorithm keeps Bézout's identity: whatever the fuel,
the coefficients it returns combine `a` and `b` into the first number it returns. -/
theorem inverse?_go_bezout (a b : Int) (fuel : Nat) :
    a * (inverse?.go a b fuel).2.1 + b * (inverse?.go a b fuel).2.2 = (inverse?.go a b fuel).1 := by
  induction fuel generalizing a b with
  | zero => simp [inverse?.go]
  | succ fuel ih =>
    by_cases zero : b = 0
    · simp [inverse?.go, zero]
    · -- the identity for `b` and `a % b` is the identity for `a` and `b`, since `a % b = a - b * (a / b)`
      have step := ih b (a % b)
      simp only [inverse?.go, zero, if_false]
      generalize inverse?.go b (a % b) fuel = r at step ⊢
      obtain ⟨g, x, y⟩ := r
      rw [Int.emod_def] at step
      linear_combination step

/-- With fuel above the second number, the extended Euclidean algorithm ends with the greatest
common divisor: each step keeps the divisor and lowers the second number. -/
theorem inverse?_go_gcd (a b : Int) (fuel : Nat) (ha : 0 ≤ a) (hb : 0 ≤ b) (enough : b < fuel) :
    (inverse?.go a b fuel).1 = Int.gcd a b := by
  induction fuel generalizing a b with
  | zero => omega
  | succ fuel ih =>
    by_cases zero : b = 0
    · subst zero
      simp [inverse?.go, Int.natAbs_of_nonneg ha]
    · have lower : a % b < b := Int.emod_lt_of_pos a (by omega)
      simp only [inverse?.go, zero, if_false]
      rw [ih b (a % b) hb (Int.emod_nonneg a zero) (by omega), Int.gcd_comm, Int.gcd_emod]

/-- A number has an inverse modulo `m` exactly when it is coprime to `m`. -/
theorem isSome_inverse?_iff (a m : Nat) : (inverse? a m).isSome ↔ Nat.Coprime a m := by
  unfold inverse?
  have residue : (0 : Int) ≤ (a : Int) % (m : Int) := by
    rw [← Int.natCast_mod]
    exact Int.natCast_nonneg _
  have divisor := inverse?_go_gcd (a % m : Int) m (m + 1) residue (Int.natCast_nonneg m) (by omega)
  generalize inverse?.go (a % m : Int) m (m + 1) = r at divisor
  obtain ⟨g, x, y⟩ := r
  dsimp only at divisor ⊢
  subst divisor
  rw [Int.gcd_emod, Int.gcd_natCast_natCast]
  split_ifs with one
  · simpa [Nat.Coprime] using one
  · simpa [Nat.Coprime] using one

/-- What is found is an inverse. -/
theorem inverse?_spec {a m u : Nat} (pos : 0 < m) (h : inverse? a m = some u) : u * a ≡ 1 [MOD m] := by
  unfold inverse? at h
  have bezout := inverse?_go_bezout (a % m : Int) m (m + 1)
  generalize inverse?.go (a % m : Int) m (m + 1) = r at h bezout
  obtain ⟨g, x, y⟩ := r
  dsimp only at h bezout
  split_ifs at h with one
  obtain rfl := Option.some.inj h
  subst one
  have nonneg : 0 ≤ x % (m : Int) := Int.emod_nonneg x (by omega)
  rw [← Int.natCast_modEq_iff]
  push_cast
  rw [Int.toNat_of_nonneg nonneg]
  calc x % m * a ≡ x * (a % m) [ZMOD m] := (Int.mod_modEq x m).mul (Int.mod_modEq a m).symm
    _ = 1 + m * (-y) := by linear_combination bezout
    _ ≡ 1 [ZMOD m] := by
      rw [Int.modEq_iff_dvd]
      exact ⟨y, by ring⟩

end Modular

/-! ## The material of accepted primes -/

/-- A residue of one modulo `p - 1` leaves no room for `p` below three. -/
theorem three_le_of_exponent_mod {p d : Nat} (pos : 0 < p) (h : d * rsaExponent % (p - 1) = 1) : 3 ≤ p := by
  by_contra small
  obtain rfl | rfl : p = 1 ∨ p = 2 := by omega
  · rw [Nat.sub_self, Nat.mod_zero, rsaExponent] at h
    omega
  · rw [show 2 - 1 = 1 from rfl, Nat.mod_one] at h
    cases h

/-- What the RSA rules give for two numbers is the inverse of the public exponent modulo
`lcm(p - 1, q - 1)`, and the two are distinct and at least three. -/
theorem rsaPrivateExponent_inverse {bits p q d : Nat} (accepted : rsaPrivateExponent bits p q = .ok d) :
    d * rsaExponent ≡ 1 [MOD Nat.lcm (p - 1) (q - 1)] ∧ p ≠ q ∧ 3 ≤ p ∧ 3 ≤ q := by
  obtain ⟨distinct, pp, pq, inverse, first, second, -, -⟩ := FreshKey.rsaPrivateExponent_eq_ok accepted
  have hp := three_le_of_exponent_mod pp first
  have hq := three_le_of_exponent_mod pq second
  exact ⟨Modular.inverse?_spec (Nat.lcm_pos (by omega) (by omega)) inverse, distinct, hp, hq⟩

namespace FreshKey

/-- RSA material in the OpenPGP layout: public numbers the modulus `n` and the exponent
65537; secret numbers `(d, p, q, u)` with `p < q`, `p * q = n`, `u` the inverse of `p` modulo
`q` and `d` the inverse of the exponent modulo `lcm(p - 1, q - 1)`. -/
structure RfcLayout (f : FreshKey) (n d p q u : Nat) : Prop where
  algorithm : f.algorithm = .rsa
  params : f.params = .rsa (Mpi.ofNat n) (Mpi.ofNat rsaExponent)
  secret : f.secret = [Mpi.ofNat d, Mpi.ofNat p, Mpi.ofNat q, Mpi.ofNat u]
  ordered : p < q
  modulus : p * q = n
  crt : u * p ≡ 1 [MOD q]
  exponent : d * rsaExponent ≡ 1 [MOD Nat.lcm (p - 1) (q - 1)]

/-- A function of two numbers that does not depend on their order takes the same value on the
smaller and the larger. -/
theorem min_max_of_symm {β : Type} (f : Nat → Nat → β) (symm : ∀ a b, f a b = f b a) (p q : Nat) :
    f (min p q) (max p q) = f p q := by
  rcases le_total p q with le | le
  · rw [min_eq_left le, max_eq_right le]
  · rw [min_eq_right le, max_eq_left le, symm]

end FreshKey

/-- The RSA secret parameters of primes that the RSA rules accept for a size. When the two numbers
are coprime, as two distinct primes are, the material follows the OpenPGP layout: the modulus is their
product and the exponent 65537, the secret numbers are `(d, p, q, u)` with `p` the smaller and `q`
the larger of the two, whichever came first, `u * p ≡ 1 (mod q)` and
`d * 65537 ≡ 1 (mod lcm(p - 1, q - 1))`. When they share a factor, the material is refused, as no
`u` exists. -/
theorem rsa_material_of_accepted_primes {bits p₁ p₂ d : Nat} (accepted : rsaPrivateExponent bits p₁ p₂ = .ok d) :
    (Nat.Coprime p₁ p₂ → ∃ f u, FreshKey.ofRsa p₁ p₂ d = .ok f ∧
      f.RfcLayout (p₁ * p₂) d (min p₁ p₂) (max p₁ p₂) u) ∧
    (¬ Nat.Coprime p₁ p₂ →
      FreshKey.ofRsa p₁ p₂ d = .error (.keyGeneration "RSA primes have no CRT coefficient")) := by
  obtain ⟨exponent, distinct, hp, hq⟩ := rsaPrivateExponent_inverse accepted
  -- neither coprimality nor `lcm(p - 1, q - 1)` depends on which number comes first
  have coprimeOrdered : Nat.Coprime (min p₁ p₂) (max p₁ p₂) = Nat.Coprime p₁ p₂ :=
    FreshKey.min_max_of_symm Nat.Coprime (fun a b => propext Nat.coprime_comm) p₁ p₂
  have lcmOrdered : Nat.lcm (min p₁ p₂ - 1) (max p₁ p₂ - 1) = Nat.lcm (p₁ - 1) (p₂ - 1) :=
    FreshKey.min_max_of_symm (fun a b => Nat.lcm (a - 1) (b - 1)) (fun a b => Nat.lcm_comm _ _) p₁ p₂
  refine ⟨fun coprime => ?_, fun shared => ?_⟩
  · obtain ⟨u, found⟩ := Option.isSome_iff_exists.mp
      ((Modular.isSome_inverse?_iff _ _).mpr (coprimeOrdered ▸ coprime))
    refine ⟨FreshKey.rsa p₁ p₂ d, u, by rw [FreshKey.ofRsa_eq, found]; rfl, ?_⟩
    exact { algorithm := rfl
            params := by rw [FreshKey.rsa_eq]
            secret := by rw [FreshKey.rsa_eq, found]; rfl
            ordered := by omega
            modulus := min_mul_max p₁ p₂
            crt := Modular.inverse?_spec (by omega) found
            exponent := lcmOrdered ▸ exponent }
  · have none : (Modular.inverse? (min p₁ p₂) (max p₁ p₂)).isSome = false := by
      rw [Bool.eq_false_iff, ne_eq, Modular.isSome_inverse?_iff, coprimeOrdered]
      exact shared
    rw [FreshKey.ofRsa_eq, none]
    rfl

/-- The numbers 11 and 13 pass the RSA rules for an 8-bit modulus, with private exponent 53, and
give material in the OpenPGP layout. -/
theorem eleven_thirteen_rfc_material :
    rsaPrivateExponent 8 11 13 = .ok 53 ∧ ∃ f u, FreshKey.ofRsa 11 13 53 = .ok f ∧
      f.RfcLayout (11 * 13) 53 (min 11 13) (max 11 13) u :=
  ⟨by decide, (@rsa_material_of_accepted_primes 8 11 13 53 (by decide)).1 (by decide)⟩

/-- The numbers 9 and 15 pass the RSA rules for an 8-bit modulus, with private exponent 33, but
share the factor 3, so their material is refused. -/
theorem nine_fifteen_no_crt_coefficient :
    rsaPrivateExponent 8 9 15 = .ok 33 ∧
      FreshKey.ofRsa 9 15 33 = .error (.keyGeneration "RSA primes have no CRT coefficient") :=
  ⟨by decide, rfl⟩

end SealedMail
