import Mathlib
import SealedMail.Proofs.GeneratedKeys
import SealedMail.Proofs.SignaturePackets

/-! # Recorded creation times

Three writers stamp a clock reading into the four bytes of an OpenPGP time: the date of literal
data (`Payload.literal`), the creation time of a new signature (`signatureConfig`) and the
creation time of a new key, in its key packets and its self-signatures (`KeyMaker.created`).
Each records a number below 2^32, so the four bytes written for it read back as it.

The writers do not agree on a reading that does not fit. Literal data records zero for any
reading before the epoch or from 2^32 on. Signatures and keys record `Calendar.recordedTime`:
zero before the epoch and past the last date of the calendar, but between 2^32 and that date the
reading's low 32 bits, a time that wraps around to some other one
(`Calendar.recordedTime_eq`, `recorded_creation_times`).
-/

namespace SealedMail

/-! ## The recorded value -/

namespace Calendar

/-- The creation time recorded for a clock reading: the reading when it fits four bytes, zero
before the epoch and past the calendar, and the reading's low 32 bits in between. -/
theorem recordedTime_eq (t : Int) :
    recordedTime t = if 0 ≤ t ∧ t < Int.pow 2 32 then t.toNat
      else if t < 0 ∨ maxSecond < t then 0 else t.toNat % Nat.pow 2 32 := by
  have four : Int.pow 2 32 = 4294967296 := rfl
  have fourNat : Nat.pow 2 32 = 4294967296 := rfl
  have last : maxSecond = 8210266876799 := rfl
  unfold recordedTime
  by_cases late : t > maxSecond
  · rw [if_pos late, if_neg (by omega), if_pos (.inr late)]
  rw [if_neg late]
  by_cases fits : 0 ≤ t ∧ t < Int.pow 2 32
  · rw [if_pos fits, Nat.mod_eq_of_lt (by omega)]
  rw [if_neg fits]
  by_cases early : t < 0
  · rw [if_pos (.inl early), Int.toNat_of_nonpos early.le, Nat.zero_mod]
  · rw [if_neg (by omega)]

end Calendar

/-! ## Literal data -/

namespace Payload

/-- The date of literal data is the payload's date when it fits four bytes, and zero
otherwise. -/
theorem literal_date (p : Payload) :
    p.literal.date = if 0 ≤ p.date ∧ p.date < Int.pow 2 32 then p.date.toNat else 0 := by
  simp [literal]

theorem literal_date_lt (p : Payload) : p.literal.date < Nat.pow 2 32 := by
  have four : Int.pow 2 32 = 4294967296 := rfl
  have fourNat : Nat.pow 2 32 = 4294967296 := rfl
  rw [literal_date]
  split_ifs with fits <;> omega

/-- The literal packet of every payload reads back as itself: its format octet is one a reader
accepts, its file name fits a one-byte length and its date four bytes. -/
theorem read_literal_body (p : Payload) :
    Packet.read .new .literalData p.literal.body = .ok (.literal p.literal) := by
  have mode : p.literal.mode = 0x62 ∨ p.literal.mode = 0x74 ∨ p.literal.mode = 0x75 ∨ p.literal.mode = 0x6d := by
    cases format : p.format <;> simp [literal, format, LiteralFormat.octet]
  have name : p.literal.fileName.size < 256 := by
    simp only [literal, ByteArray.size_extract]
    omega
  exact Packet.read_literal (Cursor.readsLast_literal mode name p.literal_date_lt)

end Payload

/-! ## Signatures -/

/-- Signing keeps the creation time of its settings. -/
theorem Material.sign_created? {m : Material} {config : Signature} {data : ByteArray} {s : Signature}
    (h : m.sign config data = .ok s) : s.created? = config.created? := by
  obtain ⟨-, -, -, -, -, -, rfl⟩ := Material.sign_eq_ok h
  rfl

theorem signatureConfig_created? (m : Material) (typ : SignatureType) (hash : HashAlgorithm) (t : Int) :
    (signatureConfig m typ hash t).created? = some (Calendar.recordedTime t) := rfl

/-- A signature made at a clock reading records the creation time of that reading. -/
theorem createSignature_created? {k : Key} {data : ByteArray} {mode : SignatureMode} {hash : HashAlgorithm}
    {t : Int} {s : Signature} (h : createSignature k data mode hash t = .ok s) :
    s.created? = some (Calendar.recordedTime t) := by
  unfold createSignature at h
  -- past the two guards, the signature is what signing with the material's settings makes
  cases found : k.signingKey with
  | none => simp [found] at h
  | some m =>
    simp only [found] at h
    by_cases locked : (!m.isUnlocked) = true
    · simp only [locked, if_true] at h
      cases h
    · simp only [locked] at h
      rw [Material.sign_created? (Outcome.ok_of_mapError h), signatureConfig_created?]

/-! ## Keys -/

namespace KeyMaker

variable {km : KeyMaker} {userId passphrase : String} {primary subkey : FreshKey} {g g' : Entropy} {K : Key}

/-- The settings of both self-signatures record the key maker's creation time first. -/
theorem certificationConfig_created? (pk : KeyPacket) :
    (km.certificationConfig pk).created? = some km.created := rfl

theorem bindingConfig_created? (pk : KeyPacket) : (km.bindingConfig pk).created? = some km.created := rfl

/-- A key that assembly makes was created at the key maker's creation time: its primary key
packet and its subkey's, and both of its self-signatures, record it. -/
theorem assemble_created (h : km.assemble userId primary subkey passphrase g = .ok (K, g')) :
    K.primary.created = km.created ∧ (∀ s ∈ K.subkeys, s.key.created = km.created) ∧
      (∀ u ∈ K.users, ∀ c ∈ u.signatures, c.created? = some km.created) ∧
      (∀ s ∈ K.subkeys, ∀ b ∈ s.signatures, b.created? = some km.created) := by
  obtain ⟨cert, binding, certified, bound, locked⟩ := assemble_eq_ok h
  -- locking changes only the secret parts of the validated draft
  obtain ⟨L, g'', relocked, r⟩ := Key.lock_of_unlocked (draft_validate_state cert binding) passphrase km.config g
  rw [locked, Except.ok.injEq, Prod.mk.injEq] at relocked
  obtain ⟨rfl, -⟩ := relocked
  obtain ⟨rest, subkeys⟩ := r.sameButSecrets
  have certTime := (Material.sign_created? certified).trans (certificationConfig_created? _)
  have bindTime := (Material.sign_created? bound).trans (bindingConfig_created? _)
  change List.Forall₂ _ [_] K.subkeys at subkeys
  obtain ⟨s', none, same, rest', sole⟩ := List.forall₂_cons_left_iff.mp subkeys
  obtain rfl := List.forall₂_nil_left_iff.mp rest'
  rw [rest, sole]
  refine ⟨rfl, ?_, ?_, ?_⟩
  · intro s member
    rw [List.mem_singleton.mp member, same]
    rfl
  · intro u member c signed
    rw [List.mem_singleton.mp member] at signed
    rw [List.mem_singleton.mp signed]
    exact certTime
  · intro s member b signed
    rw [List.mem_singleton.mp member, same] at signed
    rw [List.mem_singleton.mp signed]
    exact bindTime

end KeyMaker

/-! ## All three writers -/

/-- What each writer records for a clock reading `t`. Literal data records `t` when it fits
four bytes and zero otherwise, and its packet reads back. A signature made at `t`, detached or
embedded, records `Calendar.recordedTime t`, and so does an assembled key, in both of its key
packets and both of its self-signatures; the four bytes written for that time read back as it.
That time is `t` when `t` fits four bytes and zero before the epoch or past the calendar, but
for a reading from 2^32 up to the calendar's last second it is the reading's low 32 bits: where
literal data records zero, signatures and keys record a time that wrapped around. -/
theorem recorded_creation_times (t : Int) :
    (∀ p : Payload, p.date = t →
      p.literal.date = (if 0 ≤ t ∧ t < Int.pow 2 32 then t.toNat else 0) ∧
        Packet.read .new .literalData p.literal.body = .ok (.literal p.literal)) ∧
    (∀ (k : Key) (data : ByteArray) (mode : SignatureMode) (hash : HashAlgorithm) (s : Signature),
      createSignature k data mode hash t = .ok s → s.created? = some (Calendar.recordedTime t)) ∧
    (∀ (km : KeyMaker) (userId : String) (primary subkey : FreshKey) (passphrase : String) (g : Entropy)
        (K : Key) (g' : Entropy), km.now = t →
      km.assemble userId primary subkey passphrase g = .ok (K, g') →
      K.primary.created = Calendar.recordedTime t ∧
        (∀ s ∈ K.subkeys, s.key.created = Calendar.recordedTime t) ∧
        (∀ u ∈ K.users, ∀ c ∈ u.signatures, c.created? = some (Calendar.recordedTime t)) ∧
        (∀ s ∈ K.subkeys, ∀ b ∈ s.signatures, b.created? = some (Calendar.recordedTime t))) ∧
    Cursor.Reads Cursor.u32 (Bytes.u32 (Calendar.recordedTime t)) (Calendar.recordedTime t) ∧
    Calendar.recordedTime t = (if 0 ≤ t ∧ t < Int.pow 2 32 then t.toNat
      else if t < 0 ∨ Calendar.maxSecond < t then 0 else t.toNat % Nat.pow 2 32) := by
  refine ⟨fun p dated => ?_, fun k data mode hash s signed => createSignature_created? signed,
    fun km userId primary subkey passphrase g K g' clock assembled => ?_,
    Cursor.reads_u32 (Calendar.recordedTime_lt t), Calendar.recordedTime_eq t⟩
  · rw [← dated]
    exact ⟨p.literal_date, p.read_literal_body⟩
  · have created : km.created = Calendar.recordedTime t := by rw [KeyMaker.created, clock]
    rw [← created]
    exact KeyMaker.assemble_created assembled

/-- A key of the sample RSA numbers that signs with its primary key, in the clear, with nothing
signed over it. -/
def bareRsaSigner : Key :=
  let f := FreshKey.rsa 0xf774eb5248db40af72158370d269a9a5ae658f33fe3b890b93f448b3a5aa3c81
    0xde7d6b377936d536243d35702c1eea1f265974a7cc966f46c6aa7d550101b811
    0x9409e575231d7f850cf800a03b06a15592a840951016c939edf30c6384b08edfcdbd8d2c70cd95d6ee2cd0b4410a4664dfc97e41404cecab6637d9ab2c63c01
  { primary := f.keyPacket 1700000000, primarySecret := some (.plain f.secret), revocations := [],
    directSignatures := [], users := [], attributes := [], subkeys := [] }

/-- At the clock reading 2^32 + 7, in the year 2106, literal data records zero, but a signature
made then records 7, a time in 1970. -/
theorem signature_time_wraps :
    ({ data := ByteArray.empty, format := .binary, date := Int.pow 2 32 + 7 } : Payload).literal.date = 0 ∧
      (createSignature bareRsaSigner ByteArray.empty .binary .sha256 (Int.pow 2 32 + 7)).toOption.map
        Signature.created? = some (some 7) :=
  ⟨by decide, by decide +kernel⟩

end SealedMail
