import Mathlib
import SealedMail.Proofs.SignatureStatus
import SealedMail.Proofs.KeyExpiry
import SealedMail.Proofs.ReportedStatus

/-! # The time window of a signature

The time of a check enters the status of a signature only after the cryptographic check has
passed, and only to turn a good status into `keyExpired`: at time zero no time rule applies, so
the status at any time is the status at zero or `keyExpired` in place of a good one
(`evaluateOne_status_at`).

At a nonzero time the rules are bounds on the time. The creation of the signing material is a
lower bound; the expiry of the primary key, of the subkey binding and of the signature's own
lifetime are upper bounds (`Key.isExpired_of_le`, `Signature.expiredAt_of_le`), and a
revocation does not depend on the time at all. A time between two times that pass the rules
therefore passes them too (`Key.materialExpired_between`). For a detached signature input with
a single signature packet both facts carry over to the reported status
(`verifyDetached_time_window`).
-/

namespace SealedMail

namespace Signature

/-- A signature whose own lifetime is over at some time is over at every later time. -/
theorem expiredAt_of_le {s : Signature} {t₁ t₂ : Int} (le : t₁ ≤ t₂) (expired : s.expiredAt t₁ = true) :
    s.expiredAt t₂ = true := by
  unfold expiredAt at expired ⊢
  cases created : s.created? with
  | none => simp [created] at expired
  | some c =>
    cases lifetime : s.signatureExpiration? with
    | none => simp [created, lifetime] at expired
    | some life =>
      simp only [created, lifetime, Bool.and_eq_true, decide_eq_true_eq] at expired ⊢
      exact ⟨expired.1, by omega⟩

end Signature

namespace Key

/-- Material expired at a nonzero time between two nonzero times is expired at one of them: its
creation bounds the good times from below, the expiry of the key and of the subkey binding
from above. -/
theorem materialExpired_between {k : Key} {m : Material} {t₁ t₂ t₃ : Int} (first : t₁ ≠ 0) (last : t₃ ≠ 0)
    (le₁ : t₁ ≤ t₂) (le₂ : t₂ ≤ t₃) (expired : k.materialExpired m t₂ = true) :
    k.materialExpired m t₁ = true ∨ k.materialExpired m t₃ = true := by
  unfold materialExpired at expired ⊢
  have middle : t₂ ≠ 0 := by
    rintro rfl
    simp at expired
  simp only [beq_iff_eq, first, middle, last, if_false, Bool.or_eq_true, decide_eq_true_eq] at expired ⊢
  by_cases lapsed : k.isExpired t₂ = true
  · -- the primary key has expired, and stays expired
    exact .inr (by rw [if_pos (.inl (isExpired_of_le le₂ lapsed))])
  by_cases early : m.key.created > t₂
  · -- the material is not yet created, nor was it earlier
    exact .inl (by rw [if_pos (.inr (by omega))])
  · -- the binding of the subkey has expired, and stays expired
    rw [if_neg (by simp [lapsed, early])] at expired
    right
    split_ifs with now
    · rfl
    · cases found : k.subkeys.find? (fun s => Bytes.equal s.key.keyId m.keyId) with
      | none => simp [found] at expired
      | some s =>
        cases ends : s.expirationTime with
        | none => simp [found, ends] at expired
        | some e =>
          simp only [found, ends, decide_eq_true_eq] at expired ⊢
          omega

end Key

section Window

variable {s : Signature} {ring : KeyRing} {check : Signature → Material → Bool}

/-- The status of a signature at any time is its status at time zero, or `keyExpired` in place of
a good status. -/
theorem evaluateOne_status_at (t : Int) :
    (evaluateOne s ring t check).status = (evaluateOne s ring 0 check).status ∨
      (evaluateOne s ring t check).status = .keyExpired ∧ (evaluateOne s ring 0 check).status = .ok := by
  unfold evaluateOne
  cases issuer : s.issuerId? with
  | none => simp
  | some id =>
    cases found : ring.findByKeyId id with
    | none => simp [found]
    | some km =>
      obtain ⟨k, m⟩ := km
      by_cases passes : check s m = true
      · -- the check passed: good at time zero, good or `keyExpired` at `t`
        by_cases barred : t ≠ 0 ∧ (k.revoked || k.materialExpired m t || s.expiredAt t) = true
        · simp [found, passes, barred]
        · simp only [not_and_or, ne_eq, not_not, Bool.not_eq_true] at barred
          rcases barred with zero | clear
          · simp [found, passes, zero]
          · simp [found, passes, clear]
      · simp [found, passes]

/-- Good at two nonzero times, good at every time between them. -/
theorem evaluateOne_ok_between {t₁ t₂ t₃ : Int} (first : t₁ ≠ 0) (last : t₃ ≠ 0)
    (le₁ : t₁ ≤ t₂) (le₂ : t₂ ≤ t₃) (good₁ : (evaluateOne s ring t₁ check).status = .ok)
    (good₃ : (evaluateOne s ring t₃ check).status = .ok) : (evaluateOne s ring t₂ check).status = .ok := by
  obtain ⟨issuer, k, m, named, found, passes, stands₁⟩ := evaluateOne_status_eq_ok_iff.mp good₁
  obtain ⟨issuer', k', m', named', found', -, stands₃⟩ := evaluateOne_status_eq_ok_iff.mp good₃
  obtain rfl : issuer = issuer' := Option.some.inj (named.symm.trans named')
  obtain ⟨rfl, rfl⟩ : k = k' ∧ m = m' := Prod.mk.inj (Option.some.inj (found.symm.trans found'))
  obtain ⟨unrevoked, current₁, unexpired₁⟩ := stands₁.resolve_left first
  obtain ⟨-, current₃, unexpired₃⟩ := stands₃.resolve_left last
  refine evaluateOne_status_eq_ok_iff.mpr ⟨issuer, k, m, named, found, passes, .inr ⟨unrevoked, ?_, ?_⟩⟩
  · -- expired material in between would be expired at one end
    cases current : k.materialExpired m t₂
    · rfl
    · rcases k.materialExpired_between first last le₁ le₂ current with early | late
      · rw [current₁] at early; cases early
      · rw [current₃] at late; cases late
  · -- the signature's lifetime only runs out
    cases ended : s.expiredAt t₂
    · rfl
    · rw [Signature.expiredAt_of_le le₂ ended] at unexpired₃
      cases unexpired₃

end Window

/-- The statuses a detached check reports over time keep to a window: at every time the status
at time zero, or `keyExpired` in place of a good one; and good at every time between two nonzero
times at which it is good. -/
def TimeWindow (signature data : ByteArray) (ring : KeyRing) : Prop :=
  (∀ t, ∃ v₀ v, verifyDetached signature data ring 0 = .ok v₀ ∧ verifyDetached signature data ring t = .ok v ∧
    (v.status = v₀.status ∨ v.status = .keyExpired) ∧ (v.status = .keyExpired → v₀.status = .ok)) ∧
  ∀ t₁ t₂ t₃ v₁ v₂ v₃, t₁ ≠ 0 → t₃ ≠ 0 → t₁ ≤ t₂ → t₂ ≤ t₃ →
    verifyDetached signature data ring t₁ = .ok v₁ → verifyDetached signature data ring t₂ = .ok v₂ →
    verifyDetached signature data ring t₃ = .ok v₃ → v₁.status = .ok → v₃.status = .ok → v₂.status = .ok

/-- A detached check of a single signature keeps to its time window, whatever the data and the
ring. -/
theorem verifyDetached_time_window {signature data : ByteArray} {ring : KeyRing} {s : Signature}
    (single : parseSignatures signature = .ok [s]) : TimeWindow signature data ring := by
  by_cases nonempty : ring.keys.isEmpty = false
  · -- a ring with keys: the single signature's own evaluation is reported
    have reported : ∀ t, verifyDetached signature data ring t =
        .ok (evaluateOne s ring t fun s m => s.verifies m.key data) :=
      fun _ => verifyDetached_of_single single nonempty
    refine ⟨fun t => ⟨_, _, reported 0, reported t, ?_⟩, ?_⟩
    · rcases @evaluateOne_status_at s ring (fun s m => s.verifies m.key data) t with same | ⟨expired, good⟩
      · -- no status is `keyExpired` at time zero
        exact ⟨.inl same, fun expired => absurd rfl (evaluateOne_keyExpired (same ▸ expired))⟩
      · exact ⟨.inr expired, fun _ => good⟩
    · intro t₁ t₂ t₃ v₁ v₂ v₃ first last le₁ le₂ at₁ at₂ at₃ good₁ good₃
      rw [reported t₁, Except.ok.injEq] at at₁
      rw [reported t₂, Except.ok.injEq] at at₂
      rw [reported t₃, Except.ok.injEq] at at₃
      subst at₁ at₂ at₃
      exact evaluateOne_ok_between first last le₁ le₂ good₁ good₃
  · -- an empty ring: no verifier at any time
    have noKeys : ring.keys.isEmpty = true := by simpa using nonempty
    have reported : ∀ t, verifyDetached signature data ring t = .ok { status := .noVerifier } := by
      intro t
      simp [verifyDetached, single, evaluateAll, noKeys, bind, Except.bind, pure, Except.pure]
    refine ⟨fun t => ⟨_, _, reported 0, reported t, .inl rfl, fun expired => by cases expired⟩, ?_⟩
    intro t₁ t₂ t₃ v₁ v₂ v₃ _ _ _ _ at₁ _ _ good₁ _
    rw [reported t₁, Except.ok.injEq] at at₁
    subst at₁
    cases good₁

/-- Whether bytes hold exactly one signature packet. -/
def holdsOneSignature (b : ByteArray) : Bool :=
  match parseSignatures b with
  | .ok [_] => true
  | _ => false

theorem holdsOneSignature_sound {b : ByteArray} (one : holdsOneSignature b = true) :
    ∃ s, parseSignatures b = .ok [s] := by
  unfold holdsOneSignature at one
  split at one
  case h_1 s parsed => exact ⟨s, parsed⟩
  case h_2 => exact absurd one Bool.false_ne_true

set_option maxRecDepth 20000 in
/-- alice's signature over `hello` is a single signature packet, so its check keeps to its time
window against every ring. -/
theorem hello_signature_time_window :
    ∃ s, parseSignatures aliceHelloSignature = .ok [s] ∧ ∀ ring, TimeWindow aliceHelloSignature helloBytes ring := by
  obtain ⟨s, single⟩ := holdsOneSignature_sound (b := aliceHelloSignature) (by with_unfolding_all decide)
  exact ⟨s, single, fun _ => verifyDetached_time_window single⟩

end SealedMail
