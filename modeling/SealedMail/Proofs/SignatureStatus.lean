import Mathlib
import SealedMail.Message.Signing

/-! # The status of one signature

`evaluateOne` looks the issuer's key id up in the verifier ring and then applies the check and
the time rules, nothing else. It reports a good signature exactly when the issuer names material
of the ring, the check passes and, at a nonzero time, neither a revocation of the key nor the
expiry of the key, the material or the signature bars it (`evaluateOne_status_eq_ok_iff`).

Whether a subkey found this way is bound to its primary key, or revoked, is consulted only when
keys are chosen for encryption or signing. A subkey appended to a key without a binding
signature therefore vouches for signatures just as the primary key does: the status is good
for unbound material exactly when its check and the time rules pass
(`evaluateOne_vouched_iff`), and a ring read from bytes shows it (`appended_subkey_vouches`).
-/

namespace SealedMail

namespace Key

/-- The material with a key id is the primary key when the ids agree, else the first subkey
with that id. -/
theorem findMaterial_eq (k : Key) (id : ByteArray) :
    k.findMaterial id =
      if Bytes.equal k.primaryMaterial.keyId id then some k.primaryMaterial
      else (k.subkeys.find? (fun s => Bytes.equal s.material.keyId id)).map Subkey.material := by
  simp only [findMaterial, materials, List.find?_cons, List.find?_map]
  split <;> simp_all

/-- Whether the key stands behind its material with key id `id`: that material is the primary
key, or the first subkey with the id is bound by a verified binding signature and carries no
verified revocation. -/
def vouchesFor (k : Key) (id : ByteArray) : Bool :=
  Bytes.equal k.primaryMaterial.keyId id ||
    (k.subkeys.find? (fun s => Bytes.equal s.material.keyId id)).any (fun s => s.valid && !s.revoked)

/-- The key vouches exactly when the material it returns for the id is its primary key, or the
material of the first subkey with the id while that subkey is bound and unrevoked. -/
theorem vouchesFor_iff (k : Key) (id : ByteArray) :
    k.vouchesFor id = true ↔
      (Bytes.equal k.primaryMaterial.keyId id = true ∧ k.findMaterial id = some k.primaryMaterial) ∨
        ∃ sub, k.subkeys.find? (fun s => Bytes.equal s.material.keyId id) = some sub ∧
          k.findMaterial id = some sub.material ∧ sub.valid = true ∧ sub.revoked = false := by
  rw [findMaterial_eq]
  unfold vouchesFor
  by_cases primary : Bytes.equal k.primaryMaterial.keyId id = true
  · simp [primary]
  · cases k.subkeys.find? (fun s => Bytes.equal s.material.keyId id) with
    | none => simp [primary]
    | some sub => simp [primary]

end Key

section Status

variable {s : Signature} {ring : KeyRing} {at_ : Int} {check : Signature → Material → Bool}

/-- A good status names the issuer's material, passes the check, and at a nonzero time comes
from an unrevoked key whose material and signature have not run out. -/
theorem evaluateOne_status_eq_ok_iff :
    (evaluateOne s ring at_ check).status = .ok ↔
      ∃ issuer k m, s.issuerId? = some issuer ∧ ring.findByKeyId issuer = some (k, m) ∧
        check s m = true ∧
        (at_ = 0 ∨ k.revoked = false ∧ k.materialExpired m at_ = false ∧ s.expiredAt at_ = false) := by
  unfold evaluateOne
  cases issuer : s.issuerId? with
  | none => simp
  | some id =>
    cases found : ring.findByKeyId id with
    | none => simp [found]
    | some km =>
      obtain ⟨k, m⟩ := km
      by_cases passes : check s m = true <;> by_cases zero : at_ = 0 <;>
        simp [found, passes, zero, and_assoc, exists_and_left, exists_eq_left']

/-- What a trustworthy check asks of one signature: a good status only for material that the
issuer's key vouches for, and at a nonzero time only from a key that is not revoked. -/
def VouchedWhenOk (s : Signature) (ring : KeyRing) (at_ : Int) (check : Signature → Material → Bool) :
    Prop :=
  (evaluateOne s ring at_ check).status = .ok →
    ∃ issuer k m, s.issuerId? = some issuer ∧ ring.findByKeyId issuer = some (k, m) ∧
      k.vouchesFor issuer = true ∧ (at_ ≠ 0 → k.revoked = false)

/-- The status vouches for the issuer's material exactly when every material that passes the
check and the time rules is the primary key or a bound, unrevoked subkey: binding and
revocation of subkeys are not looked at, while a revoked key is already refused by the time
rules. -/
theorem evaluateOne_vouched_iff :
    VouchedWhenOk s ring at_ check ↔
      ∀ issuer k m, s.issuerId? = some issuer → ring.findByKeyId issuer = some (k, m) →
        check s m = true →
        (at_ = 0 ∨ k.revoked = false ∧ k.materialExpired m at_ = false ∧ s.expiredAt at_ = false) →
        k.vouchesFor issuer = true := by
  constructor
  · intro vouched issuer k m named found passes stands
    obtain ⟨issuer', k', m', named', found', vouches, -⟩ :=
      vouched (evaluateOne_status_eq_ok_iff.mpr ⟨issuer, k, m, named, found, passes, stands⟩)
    obtain rfl : issuer' = issuer := Option.some.inj (named'.symm.trans named)
    obtain ⟨rfl, rfl⟩ : k' = k ∧ m' = m := Prod.mk.inj (Option.some.inj (found'.symm.trans found))
    exact vouches
  · intro vouches good
    obtain ⟨issuer, k, m, named, found, passes, stands⟩ := evaluateOne_status_eq_ok_iff.mp good
    refine ⟨issuer, k, m, named, found, vouches issuer k m named found passes stands, ?_⟩
    intro nonzero
    rcases stands with zero | ⟨unrevoked, -⟩
    · exact absurd zero nonzero
    · exact unrevoked

/-- One signature checked against a ring with keys gets the status of its own evaluation. -/
theorem evaluateAll_singleton (nonempty : ring.keys.isEmpty = false) :
    evaluateAll [s] (some ring) at_ check = evaluateOne s ring at_ check := by
  simp [evaluateAll, nonempty]

/-- A detached signature input holding one signature packet is judged by that signature alone. -/
theorem verifyDetached_of_single {signature data : ByteArray}
    (parsed : parseSignatures signature = .ok [s]) (nonempty : ring.keys.isEmpty = false) :
    verifyDetached signature data ring at_ =
      .ok (evaluateOne s ring at_ (fun s m => s.verifies m.key data)) := by
  simp only [verifyDetached, parsed, bind, Except.bind, pure, Except.pure]
  rw [evaluateAll_singleton nonempty]

/-- Whether a ring and a detached signature, both read from bytes, show a good status that the
key found for the issuer does not vouch for: the signature is the only one, the ring has keys,
and the status at time zero is good while the material is an unbound or revoked subkey. -/
def unvouchedOk (ringBytes sigBytes data : ByteArray) : Bool :=
  match KeyRing.parse ringBytes, parseSignatures sigBytes with
  | .ok ring, .ok [s] =>
    !ring.keys.isEmpty &&
      (evaluateOne s ring 0 (fun s m => s.verifies m.key data)).status == .ok &&
      (s.issuerId?.bind fun id => (ring.findByKeyId id).map fun found => found.1.vouchesFor id) ==
        some false
  | _, _ => false

theorem unvouchedOk_sound {ringBytes sigBytes data : ByteArray}
    (unvouched : unvouchedOk ringBytes sigBytes data = true) :
    ∃ ring s, KeyRing.parse ringBytes = .ok ring ∧ parseSignatures sigBytes = .ok [s] ∧
      (verifyDetached sigBytes data ring 0).map (·.status) = .ok .ok ∧
      ¬ VouchedWhenOk s ring 0 (fun s m => s.verifies m.key data) := by
  unfold unvouchedOk at unvouched
  split at unvouched
  case h_1 ring s parsedRing parsedSig =>
    simp only [Bool.and_eq_true, Bool.not_eq_true', beq_iff_eq] at unvouched
    obtain ⟨⟨nonempty, good⟩, refused⟩ := unvouched
    refine ⟨ring, s, parsedRing, parsedSig, ?_, ?_⟩
    · rw [verifyDetached_of_single parsedSig nonempty]
      exact congrArg Except.ok good
    · intro vouched
      obtain ⟨issuer, k, m, named, found, vouches, -⟩ := vouched good
      simp [named, found, vouches] at refused
  case h_2 => exact absurd unvouched Bool.false_ne_true

end Status

/-- A verifier ring of one key: bob's primary key, then alice's primary key packet written as a
subkey and followed by bob's subkey binding signature with its hash rewritten to MD5, so that
it binds nothing. -/
def appendedSubkeyRing : ByteArray :=
  ⟨#[198, 51, 4, 101, 82, 106, 96, 22, 9, 43, 6, 1, 4, 1, 218, 71, 15, 1, 1, 7, 64, 69, 154, 61, 80,
    64, 36, 58, 139, 137, 23, 17, 134, 59, 17, 197, 254, 191, 81, 166, 0, 107, 28, 207, 49, 245, 56,
    236, 45, 85, 172, 174, 129, 206, 51, 4, 101, 82, 106, 96, 22, 9, 43, 6, 1, 4, 1, 218, 71, 15, 1,
    1, 7, 64, 118, 183, 25, 31, 55, 188, 223, 52, 110, 147, 115, 175, 199, 187, 153, 50, 78, 136,
    183, 83, 239, 69, 126, 137, 66, 12, 244, 45, 31, 149, 90, 40, 194, 120, 4, 24, 22, 1, 0, 32, 5,
    2, 101, 82, 106, 96, 22, 33, 4, 156, 95, 38, 145, 22, 92, 31, 163, 65, 86, 9, 252, 156, 43, 18,
    119, 242, 83, 45, 99, 2, 27, 12, 0, 10, 9, 16, 156, 43, 18, 119, 242, 83, 45, 99, 57, 173, 0,
    255, 97, 236, 236, 227, 66, 111, 204, 7, 32, 195, 179, 82, 50, 76, 47, 125, 244, 9, 9, 50, 85,
    103, 159, 62, 195, 6, 113, 54, 97, 251, 37, 207, 0, 255, 80, 16, 175, 191, 246, 166, 72, 145,
    228, 202, 224, 203, 193, 46, 78, 130, 6, 34, 147, 170, 190, 78, 86, 211, 227, 88, 30, 109, 231,
    103, 207, 4]⟩

/-- alice's text signature over `helloBytes`, made with her primary key at 1700000000 with
SHA-256. -/
def aliceHelloSignature : ByteArray :=
  ⟨#[194, 117, 4, 1, 22, 8, 0, 29, 5, 2, 101, 83, 241, 0, 22, 33, 4, 170, 207, 159, 225, 121, 207,
    121, 221, 96, 193, 230, 94, 239, 84, 159, 44, 135, 247, 162, 145, 0, 10, 9, 16, 239, 84, 159,
    44, 135, 247, 162, 145, 11, 23, 1, 0, 176, 131, 15, 151, 206, 199, 142, 13, 36, 252, 116, 40,
    79, 50, 14, 106, 239, 142, 181, 9, 236, 4, 93, 20, 2, 60, 101, 218, 198, 217, 14, 107, 1, 0,
    190, 228, 247, 126, 181, 128, 58, 135, 154, 129, 174, 91, 86, 230, 249, 132, 83, 233, 73, 157,
    207, 114, 165, 5, 59, 206, 216, 151, 27, 147, 22, 12]⟩

/-- The bytes of the text `hello`. -/
def helloBytes : ByteArray := ⟨#[104, 101, 108, 108, 111]⟩

/-- A signature by a subkey that was appended to a key without a valid binding is reported
good, both by `evaluateOne` and by the detached check. -/
theorem appended_subkey_vouches :
    ∃ ring s, KeyRing.parse appendedSubkeyRing = .ok ring ∧
      parseSignatures aliceHelloSignature = .ok [s] ∧
      (verifyDetached aliceHelloSignature helloBytes ring 0).map (·.status) = .ok .ok ∧
      ¬ VouchedWhenOk s ring 0 (fun s m => s.verifies m.key helloBytes) :=
  unvouchedOk_sound (by decide +kernel)

end SealedMail
