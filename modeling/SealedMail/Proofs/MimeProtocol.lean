import Mathlib
import SealedMail.Engine.Mime

/-! # The callback protocol of MIME decryption

Decrypting a PGP/MIME message delivers its results as events. The protocol those events
follow is an automaton (`MimeEvent.Phase.next`), stated apart from the decryptor: a body
first, then attachments, then protected header blocks, then one verification status; or a
single error before anything else. It accepts exactly those two shapes
(`followsProtocol_iff`), so an error comes alone and a status comes last and once
(`FollowsProtocol.error_alone`, `FollowsProtocol.ends_verified`).

Every MIME decryption follows the protocol, whatever its inputs, and the status it reports
reads back from its number (`decryptMimeMessage_followsProtocol`).
-/

namespace SealedMail

namespace MimeEvent

/-- How far a run of events has come in the protocol. -/
inductive Phase where
  /-- Nothing is delivered yet. -/
  | start
  /-- The body is delivered; attachments may follow. -/
  | parts
  /-- Protected header blocks are being delivered. -/
  | headers
  /-- The status is delivered; nothing may follow. -/
  | verified
  /-- The error is delivered; nothing may follow. -/
  | failed
deriving DecidableEq

/-- The phase after one more event, or `none` when the protocol forbids the event there. -/
def Phase.next : Phase → MimeEvent → Option Phase
  | .start, .body .. => some .parts
  | .start, .error _ => some .failed
  | .parts, .attachment .. => some .parts
  | .parts, .encryptedHeaders _ => some .headers
  | .headers, .encryptedHeaders _ => some .headers
  | .parts, .verified _ => some .verified
  | .headers, .verified _ => some .verified
  | _, _ => none

/-- The phase after a run of events. -/
def Phase.run (q : Phase) (events : List MimeEvent) : Option Phase := events.foldlM Phase.next q

/-- Whether a run of events is a whole delivery: it ends with the status or with the error. -/
def FollowsProtocol (events : List MimeEvent) : Prop :=
  Phase.run .start events = some .verified ∨ Phase.run .start events = some .failed

instance (events : List MimeEvent) : Decidable (FollowsProtocol events) :=
  inferInstanceAs (Decidable (_ ∨ _))

/-- Whether an event is the verification status. -/
def isVerified : MimeEvent → Bool
  | .verified _ => true
  | _ => false

/-- Whether an event is an error. -/
def isError : MimeEvent → Bool
  | .error _ => true
  | _ => false

/-! ## Runs of the automaton -/

namespace Phase

@[simp] theorem run_nil (q : Phase) : q.run [] = some q := rfl

@[simp] theorem run_cons (q : Phase) (e : MimeEvent) (rest : List MimeEvent) :
    q.run (e :: rest) = (q.next e).bind (·.run rest) := rfl

theorem run_append (q : Phase) (xs ys : List MimeEvent) :
    q.run (xs ++ ys) = (q.run xs).bind (·.run ys) := by
  simp only [run, List.foldlM_append]
  rfl

/-- Nothing moves a finished run on. -/
@[simp] theorem run_verified (rest : List MimeEvent) :
    Phase.verified.run rest = if rest = [] then some .verified else none := by
  cases rest <;> simp [next]

@[simp] theorem run_failed (rest : List MimeEvent) :
    Phase.failed.run rest = if rest = [] then some .failed else none := by
  cases rest <;> simp [next]

/-- Attachments keep the run among the parts. -/
theorem run_attachments (atts : List (String × ByteArray)) :
    Phase.parts.run (atts.map fun (h, b) => .attachment h b) = some .parts := by
  induction atts with
  | nil => rfl
  | cons a rest ih => simpa [next] using ih

/-- Header blocks after the parts leave the run among the headers, or among the parts when
there are none. -/
theorem run_headers (hdrs : List String) :
    Phase.parts.run (hdrs.map .encryptedHeaders) =
      some (if hdrs = [] then .parts else .headers) := by
  cases hdrs with
  | nil => rfl
  | cons h rest =>
    simp only [List.map_cons, run_cons, next, Option.bind_some, reduceCtorEq, if_false]
    induction rest with
    | nil => rfl
    | cons h' rest ih => simpa [next] using ih

/-- What runs from the parts into the status: attachments, then header blocks, then the
status. -/
def Delivery (events : List MimeEvent) : Prop :=
  ∃ (atts : List (String × ByteArray)) (hdrs : List String) (status : VerificationStatus),
    events = atts.map (fun (h, b) => .attachment h b) ++ hdrs.map .encryptedHeaders ++ [.verified status]

/-- From the headers phase exactly header blocks and then the status reach the end. -/
theorem run_headers_eq_verified {events : List MimeEvent}
    (done : Phase.headers.run events = some .verified) :
    ∃ (hdrs : List String) (status : VerificationStatus),
      events = hdrs.map .encryptedHeaders ++ [.verified status] := by
  induction events with
  | nil => simp at done
  | cons e rest ih =>
    cases e with
    | encryptedHeaders h =>
      obtain ⟨hdrs, status, rfl⟩ := ih (by simpa [next] using done)
      exact ⟨h :: hdrs, status, rfl⟩
    | verified status =>
      have empty : rest = [] := by
        by_contra nonempty
        simp [next, nonempty] at done
      exact ⟨[], status, by simp [empty]⟩
    | body _ _ | attachment _ _ | error _ => simp [next] at done

/-- From the parts phase exactly a delivery reaches the end. -/
theorem run_parts_eq_verified {events : List MimeEvent}
    (done : Phase.parts.run events = some .verified) : Delivery events := by
  induction events with
  | nil => simp at done
  | cons e rest ih =>
    cases e with
    | attachment h b =>
      obtain ⟨atts, hdrs, status, rfl⟩ := ih (by simpa [next] using done)
      exact ⟨(h, b) :: atts, hdrs, status, rfl⟩
    | encryptedHeaders h =>
      obtain ⟨hdrs, status, rfl⟩ := run_headers_eq_verified (by simpa [next] using done)
      exact ⟨[], h :: hdrs, status, rfl⟩
    | verified status =>
      have empty : rest = [] := by
        by_contra nonempty
        simp [next, nonempty] at done
      exact ⟨[], [], status, by simp [empty]⟩
    | body _ _ | error _ => simp [next] at done

theorem run_delivery {events : List MimeEvent} (delivery : Delivery events) :
    Phase.parts.run events = some .verified := by
  obtain ⟨atts, hdrs, status, rfl⟩ := delivery
  rw [run_append, run_append, run_attachments, Option.bind_some, run_headers]
  split <;> simp [next]

end Phase

/-! ## The two shapes of a delivery -/

namespace Phase

theorem next_eq_failed {q : Phase} {e : MimeEvent} (step : q.next e = some .failed) :
    q = .start ∧ ∃ err, e = .error err := by
  cases q <;> cases e <;> simp_all [next]

theorem next_ne_start (q : Phase) (e : MimeEvent) : q.next e ≠ some .start := by
  cases q <;> cases e <;> simp [next]

/-- Only a single error, from the start, ends a run in failure. -/
theorem run_eq_failed {q : Phase} {events : List MimeEvent} (done : q.run events = some .failed) :
    (q = .failed ∧ events = []) ∨ (q = .start ∧ ∃ err, events = [.error err]) := by
  induction events generalizing q with
  | nil => exact .inl ⟨Option.some.inj done, rfl⟩
  | cons e rest ih =>
    obtain ⟨q', step, done'⟩ := Option.bind_eq_some_iff.mp done
    rcases ih done' with ⟨rfl, rfl⟩ | ⟨rfl, -⟩
    · obtain ⟨rfl, err, rfl⟩ := next_eq_failed step
      exact .inr ⟨rfl, err, rfl⟩
    · exact absurd step (next_ne_start q e)

end Phase

/-- The protocol accepts a single error, or a body followed by a delivery. -/
theorem followsProtocol_iff (events : List MimeEvent) :
    FollowsProtocol events ↔
      (∃ e, events = [.error e]) ∨
        ∃ text mimeType rest, events = .body text mimeType :: rest ∧ Phase.Delivery rest := by
  constructor
  · rintro (done | done)
    · -- only a body can open a run that ends with the status
      cases events with
      | nil => simp at done
      | cons e rest =>
        cases e with
        | body text mimeType =>
          exact .inr ⟨text, mimeType, rest, rfl,
            Phase.run_parts_eq_verified (by simpa [Phase.next] using done)⟩
        | attachment _ _ | encryptedHeaders _ | verified _ | error _ => simp [Phase.next] at done
    · rcases Phase.run_eq_failed done with ⟨nope, -⟩ | ⟨-, err, rfl⟩
      · cases nope
      · exact .inl ⟨err, rfl⟩
  · rintro (⟨e, rfl⟩ | ⟨text, mimeType, rest, rfl, delivery⟩)
    · exact .inr rfl
    · exact .inl (by simpa [Phase.next] using Phase.run_delivery delivery)

example : ¬ FollowsProtocol [.body "" "text/plain", .error .wrongPassword] := by decide

/-! ## What the shapes forbid -/

namespace FollowsProtocol

variable {events : List MimeEvent}

/-- An error is the only event of its run: nothing comes before it and nothing after it. -/
theorem error_alone (follows : FollowsProtocol events) (erred : ∃ e, MimeEvent.error e ∈ events) :
    ∃ e, events = [.error e] := by
  obtain ⟨e, member⟩ := erred
  rcases (followsProtocol_iff events).mp follows with alone | ⟨text, mimeType, rest, rfl, atts, hdrs, status, rfl⟩
  · exact alone
  · simp at member

/-- Without an error, the run opens with the body and ends with its one status. -/
theorem ends_verified (follows : FollowsProtocol events) (clean : ∀ e, MimeEvent.error e ∉ events) :
    (∃ text mimeType, events.head? = some (.body text mimeType)) ∧
      (∃ status, events.getLast? = some (.verified status)) ∧ events.countP isVerified = 1 := by
  rcases (followsProtocol_iff events).mp follows with ⟨e, rfl⟩ | ⟨text, mimeType, rest, rfl, atts, hdrs, status, rfl⟩
  · exact absurd (List.mem_singleton_self _) (clean e)
  · refine ⟨⟨text, mimeType, rfl⟩, ⟨status, by rw [← List.cons_append, List.getLast?_concat]⟩, ?_⟩
    simp [List.countP_append, Function.comp_def, isVerified]

end FollowsProtocol

end MimeEvent

/-- Every status reads back from its number. -/
@[simp] theorem VerificationStatus.ofCode?_code (s : VerificationStatus) :
    VerificationStatus.ofCode? (s.code : Int) = some s := by
  cases s <;> rfl

/-! ## Decryption follows the protocol -/

open MimeEvent in
/-- A decryptor delivers the error of its extraction alone, or the body it picked, the
attachments and header blocks it gathered, and the status. -/
theorem MimeDecryptor.decrypt_followsProtocol (d : MimeDecryptor) (encrypted : ByteArray) :
    FollowsProtocol (d.decrypt encrypted) := by
  rw [followsProtocol_iff]
  unfold MimeDecryptor.decrypt
  split
  · next g status _ =>
    exact .inr ⟨_, _, _, rfl, g.attachments.toList, g.encryptedHeaders.toList, status, by simp⟩
  · next e _ => exact .inl ⟨e, rfl⟩

open MimeEvent in
/-- Whatever the message, keys, passphrase and time, MIME decryption delivers a single error,
or a body, attachments, protected header blocks and one status last; the status number it
carries reads back as that status. -/
theorem decryptMimeMessage_followsProtocol (encryptedText : String) (verifierKey privateKeys : ByteArray)
    (passphrase : String) (verifyTime : Int) :
    FollowsProtocol (Engine.decryptMimeMessage encryptedText verifierKey privateKeys passphrase verifyTime) ∧
      ∀ status, MimeEvent.verified status ∈
          Engine.decryptMimeMessage encryptedText verifierKey privateKeys passphrase verifyTime →
        VerificationStatus.ofCode? (status.code : Int) = some status := by
  refine ⟨?_, fun status _ => VerificationStatus.ofCode?_code status⟩
  unfold Engine.decryptMimeMessage
  dsimp only
  split
  · exact .inr rfl
  · exact MimeDecryptor.decrypt_followsProtocol _ _

end SealedMail
