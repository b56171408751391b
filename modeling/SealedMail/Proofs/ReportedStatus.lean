import Mathlib
import SealedMail.Engine.Basic

/-! # Signature problems are reported, not raised

Checking signatures never fails an operation on its own: whatever a signature's fate (missing,
by an unknown key, not matching, by an expired key), it becomes a status.

Decrypting and verifying first reads the verifying keys, where blank input stands for no keys
at all, and then decrypts exactly as decryption alone does. So it fails exactly when the
verifying input is neither blank nor a key ring or decryption alone fails, with decryption's
own error when the keys were read, and it returns decryption's plaintext otherwise
(`decryptVerify_error_iff`, `decryptVerify_ok_iff`).

A detached check fails exactly when its key input or its signature input does not read
(`verifyDetachedWith_error_iff`). Otherwise it answers whether some signature of the input is
good, since the combined status is good exactly when one signature's is
(`evaluateAll_status_eq_ok_iff`).

More generally, signatures checked against a ring with keys combine to the first of their
outcomes of least rank (`evaluateAll_eq_argmin`). The combined status is therefore blind to the
order of the signatures, never worsens as signatures are added, and reports an expired key only
at a nonzero time (`evaluateAll_status_least_rank`).
-/

namespace SealedMail

/-! ## Blank verifier input -/

/-- Key input that holds nothing but ASCII white space: space, tab, line feed, form feed and
carriage return. -/
def BlankInput (data : ByteArray) : Prop := ∀ x ∈ data.data, x = 32 ∨ x = 9 ∨ x = 10 ∨ x = 12 ∨ x = 13

namespace Engine

theorem optionalRing_of_blank {data : ByteArray} (blank : BlankInput data) : optionalRing data = .ok none := by
  have all : data.data.all (fun x => x == 32 || x == 9 || x == 10 || x == 12 || x == 13) = true := by
    rw [Array.all_eq_true']
    intro x member
    rcases blank x member with h | h | h | h | h <;> simp [h]
  rw [optionalRing, if_pos all]

theorem optionalRing_of_not_blank {data : ByteArray} (filled : ¬ BlankInput data) :
    optionalRing data = some <$> KeyRing.parse data := by
  have some_byte : data.data.all (fun x => x == 32 || x == 9 || x == 10 || x == 12 || x == 13) = false := by
    rw [← Bool.not_eq_true, Array.all_eq_true']
    intro all
    apply filled
    intro x member
    simpa [Bool.or_eq_true, beq_iff_eq, or_assoc] using all x member
  simp only [optionalRing, some_byte]
  rfl

/-- Reading verifier input fails exactly when it is not blank and not a key ring, with the
error of reading the ring. -/
theorem optionalRing_eq_error_iff {data : ByteArray} {e : EngineError} :
    optionalRing data = .error e ↔ ¬ BlankInput data ∧ KeyRing.parse data = .error e := by
  by_cases blank : BlankInput data
  · simp [optionalRing_of_blank blank, blank]
  · rw [optionalRing_of_not_blank blank]
    cases KeyRing.parse data <;> simp [blank, Functor.map, Except.map]

/-- Verifier input reads exactly when it is blank or a key ring. -/
theorem optionalRing_ok_iff {data : ByteArray} :
    (∃ rs, optionalRing data = .ok rs) ↔ BlankInput data ∨ ∃ r, KeyRing.parse data = .ok r := by
  by_cases blank : BlankInput data
  · simp [optionalRing_of_blank blank, blank]
  · rw [optionalRing_of_not_blank blank]
    cases KeyRing.parse data <;> simp [blank, Functor.map, Except.map]

/-! ## Decrypting and verifying -/

section DecryptVerify

variable (encrypted : String) (verifierKey keys : ByteArray) (passphrase : String) (verifyTime : Int)

/-- Decrypting and verifying fails with an error exactly when reading the verifier input fails
with it, or the verifier input reads and decryption alone fails with it. -/
theorem decryptVerify_error_iff (e : EngineError) :
    decryptVerify encrypted verifierKey keys passphrase verifyTime = .error e ↔
      optionalRing verifierKey = .error e ∨
        (∃ verifiers, optionalRing verifierKey = .ok verifiers) ∧
          decryptMessage encrypted keys passphrase = .error e := by
  simp only [decryptVerify, decryptMessage]
  cases optionalRing verifierKey with
  | error e' => simp [bind, Except.bind]
  | ok verifiers =>
    cases decryptContent encrypted.toUTF8 keys passphrase <;> simp [bind, Except.bind, pure, Except.pure]

/-- Decrypting and verifying returns a text with some status exactly when the verifier input
reads and decryption alone returns that text. -/
theorem decryptVerify_ok_iff (text : String) :
    (∃ status, decryptVerify encrypted verifierKey keys passphrase verifyTime = .ok (text, status)) ↔
      (∃ verifiers, optionalRing verifierKey = .ok verifiers) ∧
        decryptMessage encrypted keys passphrase = .ok text := by
  simp only [decryptVerify, decryptMessage]
  cases optionalRing verifierKey with
  | error e => simp [bind, Except.bind]
  | ok verifiers =>
    cases decryptContent encrypted.toUTF8 keys passphrase <;> simp [bind, Except.bind, pure, Except.pure]

/-- Decrypting and verifying fails exactly when the verifier input is neither blank nor a key
ring, or decryption alone fails. -/
theorem decryptVerify_fails_iff :
    (∃ e, decryptVerify encrypted verifierKey keys passphrase verifyTime = .error e) ↔
      (¬ BlankInput verifierKey ∧ ∃ e, KeyRing.parse verifierKey = .error e) ∨
        ∃ e, decryptMessage encrypted keys passphrase = .error e := by
  constructor
  · rintro ⟨e, failed⟩
    rcases (decryptVerify_error_iff _ _ _ _ _ e).mp failed with unread | ⟨-, undecrypted⟩
    · obtain ⟨filled, broken⟩ := optionalRing_eq_error_iff.mp unread
      exact .inl ⟨filled, e, broken⟩
    · exact .inr ⟨e, undecrypted⟩
  · rintro (⟨filled, e, broken⟩ | ⟨e, undecrypted⟩)
    · exact ⟨e, (decryptVerify_error_iff _ _ _ _ _ e).mpr (.inl (optionalRing_eq_error_iff.mpr ⟨filled, broken⟩))⟩
    · cases read : optionalRing verifierKey with
      | error e' => exact ⟨e', (decryptVerify_error_iff _ _ _ _ _ e').mpr (.inl read)⟩
      | ok verifiers => exact ⟨e, (decryptVerify_error_iff _ _ _ _ _ e).mpr (.inr ⟨⟨verifiers, read⟩, undecrypted⟩)⟩

/-- Once the verifier input is blank or a key ring, decrypting and verifying fails with exactly
the errors of decryption alone. -/
theorem decryptVerify_same_error (e : EngineError) :
    (BlankInput verifierKey ∨ ∃ r, KeyRing.parse verifierKey = .ok r) ∧
        decryptMessage encrypted keys passphrase = .error e ↔
      (BlankInput verifierKey ∨ ∃ r, KeyRing.parse verifierKey = .ok r) ∧
        decryptVerify encrypted verifierKey keys passphrase verifyTime = .error e := by
  rw [← optionalRing_ok_iff]
  constructor
  · rintro ⟨read, undecrypted⟩
    exact ⟨read, (decryptVerify_error_iff _ _ _ _ _ e).mpr (.inr ⟨read, undecrypted⟩)⟩
  · rintro ⟨⟨verifiers, read⟩, failed⟩
    rcases (decryptVerify_error_iff _ _ _ _ _ e).mp failed with unread | ⟨-, undecrypted⟩
    · simp [read] at unread
    · exact ⟨⟨verifiers, read⟩, undecrypted⟩

/-- Decrypting and verifying returns decryption's plaintext, with some status, exactly when the
verifier input is blank or a key ring and decryption alone returns it. -/
theorem decryptVerify_same_text (text : String) :
    (∃ status, decryptVerify encrypted verifierKey keys passphrase verifyTime = .ok (text, status)) ↔
      (BlankInput verifierKey ∨ ∃ r, KeyRing.parse verifierKey = .ok r) ∧
        decryptMessage encrypted keys passphrase = .ok text := by
  rw [decryptVerify_ok_iff, optionalRing_ok_iff]

end DecryptVerify

end Engine

/-! ## The combined status of several signatures -/

namespace VerificationStatus

theorem rank_eq_zero_iff {s : VerificationStatus} : s.rank = 0 ↔ s = .ok := by
  cases s <;> simp [rank]

theorem rank_injective : Function.Injective rank := by
  intro a b same
  cases a <;> cases b <;> simp_all [rank]

/-- No status ranks above `notSigned`. -/
theorem rank_le_notSigned (s : VerificationStatus) : s.rank ≤ notSigned.rank := by
  cases s <;> simp [rank]

end VerificationStatus

section Combined

variable {check : Signature → Material → Bool}

/-- The better of two outcomes, the first among equals. -/
private def better (best v : Verified) : Verified := if v.status.rank < best.status.rank then v else best

private theorem better_status_eq_ok_iff (best v : Verified) :
    (better best v).status = .ok ↔ best.status = .ok ∨ v.status = .ok := by
  rw [← VerificationStatus.rank_eq_zero_iff, ← VerificationStatus.rank_eq_zero_iff,
    ← VerificationStatus.rank_eq_zero_iff]
  unfold better
  split <;> omega

/-- Keeping the best outcome along a list ends with a good one exactly when a good one was met. -/
private theorem foldl_better_status_eq_ok_iff (init : Verified) (outcomes : List Verified) :
    (outcomes.foldl better init).status = .ok ↔ init.status = .ok ∨ ∃ v ∈ outcomes, v.status = .ok := by
  induction outcomes generalizing init with
  | nil => simp
  | cons v rest ih =>
    rw [List.foldl_cons, ih, better_status_eq_ok_iff]
    simp only [List.mem_cons, exists_eq_or_imp]
    tauto

/-- Checked against a ring with keys, signatures get a good combined status exactly when one of
them is good on its own. -/
theorem evaluateAll_status_eq_ok_iff {sigs : List Signature} {ring : KeyRing} {at_ : Int}
    (keyed : ring.keys ≠ []) :
    (evaluateAll sigs (some ring) at_ check).status = .ok ↔
      ∃ s ∈ sigs, (evaluateOne s ring at_ check).status = .ok := by
  cases sigs with
  | nil => simp [evaluateAll]
  | cons s rest =>
    simp only [evaluateAll, List.isEmpty_cons, List.isEmpty_iff, keyed, if_false,
      List.map_cons, List.headD_cons, Bool.false_eq_true]
    change (List.foldl better _ _).status = .ok ↔ _
    rw [foldl_better_status_eq_ok_iff]
    simp

/-- Keeping the best outcome along a list, from a first one, finds what `argmin` by rank finds:
the first outcome of least rank. -/
private theorem foldl_better_eq_argmin (init : Verified) (outcomes : List Verified) :
    some (outcomes.foldl better init) = (init :: outcomes).argmin (·.status.rank) := by
  -- `argmin` is itself a left fold, whose step from `some best` is `better best`
  have step : ∀ (best : Verified) (rest : List Verified),
      some (rest.foldl better best) = rest.foldl (List.argAux fun b c => b.status.rank < c.status.rank) (some best) := by
    intro best rest
    induction rest generalizing best with
    | nil => rfl
    | cons v rest ih =>
      rw [List.foldl_cons, List.foldl_cons, ih]
      congr 1
      by_cases lower : v.status.rank < best.status.rank <;> simp [better, List.argAux, lower]
  rw [step]
  rfl

variable {sigs sigs' : List Signature} {ring : KeyRing} {at_ : Int}

/-- Checked against a ring with keys, signatures get the first outcome of least rank among
their own outcomes. -/
theorem evaluateAll_eq_argmin (keyed : ring.keys ≠ []) (signed : sigs ≠ []) :
    some (evaluateAll sigs (some ring) at_ check) =
      (sigs.map (evaluateOne · ring at_ check)).argmin (·.status.rank) := by
  obtain ⟨s, rest, rfl⟩ := List.exists_cons_of_ne_nil signed
  have self : better (evaluateOne s ring at_ check) (evaluateOne s ring at_ check) = evaluateOne s ring at_ check := by
    simp [better]
  simp only [evaluateAll, List.isEmpty_cons, List.isEmpty_iff, keyed, if_false,
    List.map_cons, List.headD_cons, Bool.false_eq_true]
  change some (List.foldl better _ _) = _
  rw [List.foldl_cons, self, foldl_better_eq_argmin]

/-- One signature is never reported as no signature. -/
theorem evaluateOne_status_ne_notSigned {s : Signature} :
    (evaluateOne s ring at_ check).status ≠ .notSigned := by
  unfold evaluateOne
  cases issuer : s.issuerId? with
  | none => simp
  | some id =>
    cases found : ring.findByKeyId id with
    | none => simp [found]
    | some km =>
      simp only [found]
      split_ifs <;> simp

/-- One signature is judged by an expired key only at a nonzero time. -/
theorem evaluateOne_keyExpired {s : Signature} (expired : (evaluateOne s ring at_ check).status = .keyExpired) :
    at_ ≠ 0 := by
  intro zero
  unfold evaluateOne at expired
  cases issuer : s.issuerId? with
  | none => simp [issuer] at expired
  | some id =>
    cases found : ring.findByKeyId id with
    | none => simp [issuer, found] at expired
    | some km => by_cases passes : check s km.2 = true <;> simp [issuer, found, passes, zero] at expired

/-- What the combined outcome can be: `notSigned` for no signatures, `noVerifier` without a ring
that holds keys, and otherwise the outcome of one of the signatures, of least rank among theirs. -/
theorem evaluateAll_cases (sigs : List Signature) (verifiers : Option KeyRing) (at_ : Int)
    (check : Signature → Material → Bool) :
    (sigs = [] ∧ evaluateAll sigs verifiers at_ check = { status := .notSigned }) ∨
    (sigs ≠ [] ∧ (∀ r, verifiers = some r → r.keys = []) ∧
      evaluateAll sigs verifiers at_ check = { status := .noVerifier }) ∨
    (∃ r, verifiers = some r ∧ r.keys ≠ [] ∧ sigs ≠ [] ∧
      (∃ s ∈ sigs, evaluateAll sigs verifiers at_ check = evaluateOne s r at_ check) ∧
      ∀ s ∈ sigs, (evaluateAll sigs verifiers at_ check).status.rank ≤ (evaluateOne s r at_ check).status.rank) := by
  by_cases signed : sigs = []
  · subst signed
    exact .inl ⟨rfl, rfl⟩
  cases verifiers with
  | none => exact .inr (.inl ⟨signed, by simp, by simp [evaluateAll, signed]⟩)
  | some r =>
    by_cases keyed : r.keys = []
    · exact .inr (.inl ⟨signed, by simp [keyed], by simp [evaluateAll, signed, keyed]⟩)
    have least : (sigs.map (evaluateOne · r at_ check)).argmin (·.status.rank) =
        some (evaluateAll sigs (some r) at_ check) :=
      (evaluateAll_eq_argmin keyed signed).symm
    refine .inr (.inr ⟨r, rfl, keyed, signed, ?_, ?_⟩)
    · -- the least outcome is one of the signatures' outcomes
      obtain ⟨s, mem, found⟩ := List.mem_map.mp (List.argmin_mem least)
      exact ⟨s, mem, found.symm⟩
    · intro s mem
      have outcome : evaluateOne s r at_ check ∈ sigs.map (evaluateOne · r at_ check) :=
        List.mem_map_of_mem mem
      exact List.le_of_mem_argmin (f := fun v : Verified => v.status.rank) outcome least

/-- The combined status is `notSigned` exactly when there are no signatures. -/
theorem evaluateAll_notSigned_iff (verifiers : Option KeyRing) :
    (evaluateAll sigs verifiers at_ check).status = .notSigned ↔ sigs = [] := by
  rcases evaluateAll_cases sigs verifiers at_ check with
    ⟨empty, -⟩ | ⟨signed, -, unverified⟩ | ⟨r, -, -, signed, ⟨s, -, outcome⟩, -⟩
  · simp [empty, evaluateAll]
  · simp [unverified, signed]
  · simp only [outcome, evaluateOne_status_ne_notSigned, signed]

/-- Adding signatures never worsens the combined status. -/
theorem evaluateAll_rank_le_of_subset (verifiers : Option KeyRing) (more : sigs ⊆ sigs') :
    (evaluateAll sigs' verifiers at_ check).status.rank ≤ (evaluateAll sigs verifiers at_ check).status.rank := by
  rcases evaluateAll_cases sigs verifiers at_ check with
    ⟨-, none⟩ | ⟨signed, unkeyed, unverified⟩ | ⟨r, rfl, keyed, signed, ⟨s, mem, outcome⟩, -⟩
  · rw [none]
    exact VerificationStatus.rank_le_notSigned _
  · have signed' : sigs' ≠ [] := fun empty => signed (List.subset_nil.mp (empty ▸ more))
    rcases evaluateAll_cases sigs' verifiers at_ check with
      ⟨empty, -⟩ | ⟨-, -, unverified'⟩ | ⟨r, rfl, keyed, -⟩
    · exact absurd empty signed'
    · rw [unverified, unverified']
    · exact absurd (unkeyed r rfl) keyed
  · have signed' : sigs' ≠ [] := List.ne_nil_of_mem (more mem)
    rcases evaluateAll_cases sigs' (some r) at_ check with
      ⟨empty, -⟩ | ⟨-, unkeyed, -⟩ | ⟨r', same, -, -, -, least⟩
    · exact absurd empty signed'
    · exact absurd (unkeyed r rfl) keyed
    · obtain rfl := Option.some.inj same
      rw [outcome]
      exact least s (more mem)

/-- Signatures in another order get the same combined status. -/
theorem evaluateAll_status_perm (verifiers : Option KeyRing) (reordered : sigs'.Perm sigs) :
    (evaluateAll sigs' verifiers at_ check).status = (evaluateAll sigs verifiers at_ check).status :=
  VerificationStatus.rank_injective (Nat.le_antisymm
    (evaluateAll_rank_le_of_subset verifiers reordered.symm.subset)
    (evaluateAll_rank_le_of_subset verifiers reordered.subset))

/-- The combined status reports an expired key only at a nonzero time. -/
theorem evaluateAll_keyExpired (verifiers : Option KeyRing)
    (expired : (evaluateAll sigs verifiers at_ check).status = .keyExpired) : at_ ≠ 0 := by
  rcases evaluateAll_cases sigs verifiers at_ check with
    ⟨-, none⟩ | ⟨-, -, unverified⟩ | ⟨r, -, -, -, ⟨s, -, outcome⟩, -⟩
  · simp [none] at expired
  · simp [unverified] at expired
  · rw [outcome] at expired
    exact evaluateOne_keyExpired expired

/-- How the statuses of several signatures combine. No signatures give `notSigned`, and only they
do; signatures without a ring that holds keys give `noVerifier`; otherwise the combined status is
the status of least rank among the signatures' own (good, then failed, then by an expired key, then
without a known key). So it ignores the order of the signatures, never worsens as signatures are
added, and reports an expired key only at a nonzero time. -/
theorem evaluateAll_status_least_rank (sigs : List Signature) (verifiers : Option KeyRing) (at_ : Int)
    (check : Signature → Material → Bool) :
    ((evaluateAll sigs verifiers at_ check).status = .notSigned ↔ sigs = []) ∧
    (sigs ≠ [] → (∀ r, verifiers = some r → r.keys = []) →
      (evaluateAll sigs verifiers at_ check).status = .noVerifier) ∧
    (∀ r, verifiers = some r → r.keys ≠ [] → sigs ≠ [] →
      (∃ s ∈ sigs, (evaluateAll sigs verifiers at_ check).status = (evaluateOne s r at_ check).status) ∧
      ∀ s ∈ sigs, (evaluateAll sigs verifiers at_ check).status.rank ≤ (evaluateOne s r at_ check).status.rank) ∧
    (∀ sigs', sigs'.Perm sigs →
      (evaluateAll sigs' verifiers at_ check).status = (evaluateAll sigs verifiers at_ check).status) ∧
    (∀ sigs', sigs ⊆ sigs' →
      (evaluateAll sigs' verifiers at_ check).status.rank ≤ (evaluateAll sigs verifiers at_ check).status.rank) ∧
    ((evaluateAll sigs verifiers at_ check).status = .keyExpired → at_ ≠ 0) := by
  refine ⟨evaluateAll_notSigned_iff verifiers, ?_, ?_, fun sigs' => evaluateAll_status_perm verifiers,
    fun sigs' => evaluateAll_rank_le_of_subset verifiers, evaluateAll_keyExpired verifiers⟩
  · intro signed unkeyed
    rcases evaluateAll_cases sigs verifiers at_ check with
      ⟨empty, -⟩ | ⟨-, -, unverified⟩ | ⟨r, rfl, keyed, -⟩
    · exact absurd empty signed
    · rw [unverified]
    · exact absurd (unkeyed r rfl) keyed
  · rintro r rfl keyed signed
    rcases evaluateAll_cases sigs (some r) at_ check with
      ⟨empty, -⟩ | ⟨-, unkeyed, -⟩ | ⟨r', same, -, -, ⟨s, mem, outcome⟩, least⟩
    · exact absurd empty signed
    · exact absurd (unkeyed r rfl) keyed
    · obtain rfl := Option.some.inj same
      exact ⟨⟨s, mem, by rw [outcome]⟩, least⟩

end Combined

/-- A key ring read from input holds at least one key. -/
theorem KeyRing.parse_keys_ne_nil {data : ByteArray} {ring : KeyRing} (parsed : KeyRing.parse data = .ok ring) :
    ring.keys ≠ [] := by
  simp only [KeyRing.parse, bind, Except.bind] at parsed
  split at parsed
  · cases parsed
  · split at parsed
    · cases parsed
    · split at parsed
      · cases parsed
      · rename_i keys _
        by_cases empty : keys.isEmpty
        · simp [empty, throw, throwThe, MonadExceptOf.throw] at parsed
        · simp only [empty, if_false, Bool.false_eq_true, pure, Except.pure, Except.ok.injEq] at parsed
          rw [← parsed]
          simpa using empty

/-! ## Detached checks -/

namespace Engine

section Detached

variable (signature data publicKey : ByteArray) (verifyTime : Int)

/-- A detached check fails exactly when the key input does not read, or it reads and the
signature input does not. -/
theorem verifyDetachedWith_error_iff (e : EngineError) :
    verifyDetachedWith signature data publicKey verifyTime = .error e ↔
      KeyRing.parse publicKey = .error e ∨
        (∃ ring, KeyRing.parse publicKey = .ok ring) ∧ parseSignatures signature = .error e := by
  simp only [verifyDetachedWith, verifyDetached]
  cases KeyRing.parse publicKey with
  | error e' => simp [bind, Except.bind]
  | ok ring => cases parseSignatures signature <;> simp [bind, Except.bind, pure, Except.pure]

/-- A detached check fails exactly when its key input or its signature input does not read. -/
theorem verifyDetachedWith_fails_iff :
    (∃ e, verifyDetachedWith signature data publicKey verifyTime = .error e) ↔
      (∃ e, KeyRing.parse publicKey = .error e) ∨ ∃ e, parseSignatures signature = .error e := by
  constructor
  · rintro ⟨e, failed⟩
    rcases (verifyDetachedWith_error_iff _ _ _ _ e).mp failed with unread | ⟨-, unparsed⟩
    · exact .inl ⟨e, unread⟩
    · exact .inr ⟨e, unparsed⟩
  · rintro (⟨e, unread⟩ | ⟨e, unparsed⟩)
    · exact ⟨e, (verifyDetachedWith_error_iff _ _ _ _ e).mpr (.inl unread)⟩
    · cases read : KeyRing.parse publicKey with
      | error e' => exact ⟨e', (verifyDetachedWith_error_iff _ _ _ _ e').mpr (.inl read)⟩
      | ok ring => exact ⟨e, (verifyDetachedWith_error_iff _ _ _ _ e).mpr (.inr ⟨⟨ring, read⟩, unparsed⟩)⟩

/-- A detached check answers exactly when both inputs read, and its answer is whether one of the
signatures is good. -/
theorem verifyDetachedWith_ok_iff (good : Bool) :
    verifyDetachedWith signature data publicKey verifyTime = .ok good ↔
      ∃ ring sigs, KeyRing.parse publicKey = .ok ring ∧ parseSignatures signature = .ok sigs ∧
        (good = true ↔ ∃ s ∈ sigs, (evaluateOne s ring verifyTime (fun s m => s.verifies m.key data)).status = .ok) := by
  simp only [verifyDetachedWith, verifyDetached]
  cases parsedRing : KeyRing.parse publicKey with
  | error e => simp [bind, Except.bind]
  | ok ring =>
    have keyed := KeyRing.parse_keys_ne_nil parsedRing
    cases parseSignatures signature with
    | error e => simp [bind, Except.bind]
    | ok sigs =>
      have combined : (evaluateAll sigs (some ring) verifyTime (fun s m => s.verifies m.key data)).status = .ok ↔
          ∃ s ∈ sigs, (evaluateOne s ring verifyTime (fun s m => s.verifies m.key data)).status = .ok :=
        evaluateAll_status_eq_ok_iff keyed
      simp only [bind, Except.bind, pure, Except.pure, Except.ok.injEq, Verified.isValid]
      constructor
      · rintro rfl
        exact ⟨ring, sigs, rfl, rfl, by simpa using combined⟩
      · rintro ⟨_, _, ⟨⟩, ⟨⟩, answer⟩
        rw [Bool.eq_iff_iff, answer, ← combined]
        simp

end Detached

end Engine

/-- Signature problems are reported as a status and never raised as an error.

Decrypting and verifying fails exactly when the verifier input is neither blank nor a key ring
or decryption alone fails; once the verifier input reads, its errors are decryption's and its
plaintext is decryption's, with some status. A detached check of data, or of text with the
trailing blanks of its lines removed, fails exactly when the key input or the signature input
does not read, and otherwise answers whether some signature of the input is good. -/
theorem signature_problems_are_reported :
    (∀ (encrypted : String) (verifierKey keys : ByteArray) (passphrase : String) (verifyTime : Int),
      ((∃ e, Engine.decryptVerify encrypted verifierKey keys passphrase verifyTime = .error e) ↔
        (¬ BlankInput verifierKey ∧ ∃ e, KeyRing.parse verifierKey = .error e) ∨
          ∃ e, Engine.decryptMessage encrypted keys passphrase = .error e) ∧
      (∀ e, (BlankInput verifierKey ∨ ∃ r, KeyRing.parse verifierKey = .ok r) ∧
          Engine.decryptMessage encrypted keys passphrase = .error e ↔
        (BlankInput verifierKey ∨ ∃ r, KeyRing.parse verifierKey = .ok r) ∧
          Engine.decryptVerify encrypted verifierKey keys passphrase verifyTime = .error e) ∧
      (∀ text, (∃ status, Engine.decryptVerify encrypted verifierKey keys passphrase verifyTime = .ok (text, status)) ↔
        (BlankInput verifierKey ∨ ∃ r, KeyRing.parse verifierKey = .ok r) ∧
          Engine.decryptMessage encrypted keys passphrase = .ok text)) ∧
    (∀ (signature data publicKey : ByteArray) (verifyTime : Int),
      ((∃ e, Engine.verifyDetachedWith signature data publicKey verifyTime = .error e) ↔
        (∃ e, KeyRing.parse publicKey = .error e) ∨ ∃ e, parseSignatures signature = .error e) ∧
      (∀ good, Engine.verifyDetachedWith signature data publicKey verifyTime = .ok good ↔
        ∃ ring sigs, KeyRing.parse publicKey = .ok ring ∧ parseSignatures signature = .ok sigs ∧
          (good = true ↔ ∃ s ∈ sigs, (evaluateOne s ring verifyTime (fun s m => s.verifies m.key data)).status = .ok))) ∧
    (∀ (signature plainText : String) (publicKey : ByteArray) (verifyTime : Int),
      ((∃ e, Engine.verifyText signature plainText publicKey verifyTime = .error e) ↔
        (∃ e, KeyRing.parse publicKey = .error e) ∨ ∃ e, parseSignatures signature.toUTF8 = .error e) ∧
      (∀ good, Engine.verifyText signature plainText publicKey verifyTime = .ok good ↔
        ∃ ring sigs, KeyRing.parse publicKey = .ok ring ∧ parseSignatures signature.toUTF8 = .ok sigs ∧
          (good = true ↔ ∃ s ∈ sigs, (evaluateOne s ring verifyTime
            (fun s m => s.verifies m.key (Lines.trimLines plainText).toUTF8)).status = .ok))) :=
  ⟨fun encrypted verifierKey keys passphrase verifyTime =>
    ⟨Engine.decryptVerify_fails_iff encrypted verifierKey keys passphrase verifyTime,
      Engine.decryptVerify_same_error encrypted verifierKey keys passphrase verifyTime,
      Engine.decryptVerify_same_text encrypted verifierKey keys passphrase verifyTime⟩,
   fun signature data publicKey verifyTime =>
    ⟨Engine.verifyDetachedWith_fails_iff signature data publicKey verifyTime,
      Engine.verifyDetachedWith_ok_iff signature data publicKey verifyTime⟩,
   fun signature plainText publicKey verifyTime =>
    ⟨Engine.verifyDetachedWith_fails_iff signature.toUTF8 (Lines.trimLines plainText).toUTF8 publicKey verifyTime,
      Engine.verifyDetachedWith_ok_iff signature.toUTF8 (Lines.trimLines plainText).toUTF8 publicKey verifyTime⟩⟩

end SealedMail
