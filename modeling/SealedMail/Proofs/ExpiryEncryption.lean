import Mathlib
import SealedMail.Engine.Basic

/-! # Expiry as encryption sees it

Whether key input counts as expired is read off the keys' encryption keys: it is not expired
exactly when some key has an encryption key at the engine's time
(`Engine.isKeyExpired_eq_ok_false_iff`). Encrypting to a key alone asks for the same encryption
key and then seals the session key to it (`keyPacketsFor_single_ok_iff`), and sealing can still
refuse: it takes material whose algorithm can receive session keys and asks the key to encrypt,
which only RSA and ECDH keys do (`sealFor_ok_iff`).

So the two answers agree exactly as far as sealing goes: input is not expired exactly when some
key has an encryption key, and encryption to that key alone succeeds exactly when sealing to its
encryption key does (`unexpired_iff_encryption_key_seals`). ElGamal keys of the encrypting kind
(algorithm 20) are counted as able to encrypt and are refused when sealing, so such a key is
reported not expired yet cannot be encrypted to (`elgamal_key_unexpired_but_refused`).
-/

namespace SealedMail

/-! ## Not expired -/

namespace Engine

/-- The expiry check answers exactly when the input reads as a key ring, and answers whether no
key of the ring has an encryption key. -/
theorem isKeyExpired_eq_ok_iff (e : Engine) (publicKey : ByteArray) (expired : Bool) :
    isKeyExpired e publicKey = .ok expired ↔
      ∃ ring, KeyRing.parse publicKey = .ok ring ∧
        expired = ring.keys.all (fun k => (k.encryptionKey e.now).isNone) := by
  simp only [isKeyExpired]
  cases KeyRing.parse publicKey with
  | error err => simp [bind, Except.bind]
  | ok ring => simp [bind, Except.bind, pure, Except.pure, eq_comm]

/-- Key input is not expired exactly when it reads as a ring one of whose keys has an encryption
key at the engine's time. -/
theorem isKeyExpired_eq_ok_false_iff (e : Engine) (publicKey : ByteArray) :
    isKeyExpired e publicKey = .ok false ↔
      ∃ ring, KeyRing.parse publicKey = .ok ring ∧ ∃ k ∈ ring.keys, ∃ m, k.encryptionKey e.now = some m := by
  rw [isKeyExpired_eq_ok_iff]
  apply exists_congr
  intro ring
  apply and_congr_right
  intro _
  rw [eq_comm, List.all_eq_false]
  simp [Option.isNone_iff_eq_none, Option.ne_none_iff_exists']

end Engine

/-! ## Sealing to one key -/

/-- Sealing succeeds exactly for material whose algorithm can receive session keys and whose
key encrypts the session key message. -/
theorem sealFor_ok_iff (s : SessionKey) (m : Material) (g : Entropy) :
    (∃ p, sealFor s m g = .ok p) ↔ m.canEncrypt ∧ ∃ r, m.key.encryptSession s.message g = .ok r := by
  unfold sealFor
  by_cases able : m.canEncrypt
  · simp only [able, Bool.not_true, Bool.false_eq_true, if_false, true_and]
    cases m.key.encryptSession s.message g with
    | error err => simp
    | ok r => simp
  · simp [able]

/-- A key holding ElGamal numbers encrypts nothing. -/
theorem KeyPacket.encryptSession_elgamal {k : KeyPacket} {p g' y : Mpi} (elgamal : k.params = .elgamal p g' y)
    (msg : ByteArray) (g : Entropy) : ∃ err, k.encryptSession msg g = .error err := by
  unfold KeyPacket.encryptSession
  rw [elgamal]
  exact ⟨_, rfl⟩

/-- Encryption to a ring of one key succeeds exactly when the key has an encryption key at the
time and sealing to it succeeds. -/
theorem keyPacketsFor_single_ok_iff (s : SessionKey) (k : Key) (at_ : Int) (g : Entropy) :
    (∃ r, keyPacketsFor s ⟨[k]⟩ at_ g = .ok r) ↔
      ∃ m, k.encryptionKey at_ = some m ∧ ∃ p, sealFor s m g = .ok p := by
  simp only [keyPacketsFor, List.isEmpty_cons, Bool.false_eq_true, if_false, List.foldlM_cons,
    List.foldlM_nil]
  cases chosen : k.encryptionKey at_ with
  | none => simp [bind, Except.bind, throw, throwThe, MonadExceptOf.throw]
  | some m =>
    cases sealed : sealFor s m g with
    | error err => simp [sealed, bind, Except.bind]
    | ok p =>
      simp only [sealed, bind, Except.bind, pure, Except.pure]
      exact ⟨fun _ => ⟨m, rfl, p, sealed⟩, fun _ => ⟨_, rfl⟩⟩

/-- Key input is not expired exactly when one of its keys has an encryption key, and encryption
to that key alone succeeds exactly when sealing to its encryption key does, for every session
key and generator state. -/
theorem unexpired_iff_encryption_key_seals (e : Engine) (publicKey : ByteArray) :
    Engine.isKeyExpired e publicKey = .ok false ↔
      ∃ ring, KeyRing.parse publicKey = .ok ring ∧ ∃ k ∈ ring.keys, ∃ m, k.encryptionKey e.now = some m ∧
        ∀ s g, (∃ r, keyPacketsFor s ⟨[k]⟩ e.now g = .ok r) ↔ ∃ p, sealFor s m g = .ok p := by
  rw [Engine.isKeyExpired_eq_ok_false_iff]
  constructor
  · rintro ⟨ring, parsed, k, member, m, chosen⟩
    refine ⟨ring, parsed, k, member, m, chosen, fun s g => ?_⟩
    rw [keyPacketsFor_single_ok_iff]
    simp [chosen]
  · rintro ⟨ring, parsed, k, member, m, chosen, -⟩
    exact ⟨ring, parsed, k, member, m, chosen⟩

/-! ## An ElGamal key -/

/-- Whether material holds ElGamal numbers. -/
def Material.isElgamal (m : Material) : Bool :=
  match m.key.params with
  | .elgamal .. => true
  | _ => false

theorem Material.encryptSession_of_isElgamal {m : Material} (elgamal : m.isElgamal = true)
    (msg : ByteArray) (g : Entropy) : ∃ err, m.key.encryptSession msg g = .error err := by
  unfold Material.isElgamal at elgamal
  split at elgamal
  · next p g' y params => exact KeyPacket.encryptSession_elgamal params msg g
  · cases elgamal

/-- Whether key input reads as one key whose encryption key at the engine's time is ElGamal
material. -/
def unexpiredElgamal (e : Engine) (publicKey : ByteArray) : Bool :=
  match KeyRing.parse publicKey with
  | .ok ⟨[k]⟩ =>
    match k.encryptionKey e.now with
    | some m => m.isElgamal
    | none => false
  | _ => false

theorem unexpiredElgamal_sound {e : Engine} {publicKey : ByteArray} (elgamal : unexpiredElgamal e publicKey = true) :
    Engine.isKeyExpired e publicKey = .ok false ∧
      ∀ s g, ∃ err, Engine.keyPacketWithPublicKey e s publicKey g = .error err := by
  unfold unexpiredElgamal at elgamal
  split at elgamal
  case h_1 k parsed =>
    split at elgamal
    case h_1 m chosen =>
      refine ⟨(Engine.isKeyExpired_eq_ok_false_iff e publicKey).mpr
        ⟨⟨[k]⟩, parsed, k, List.mem_singleton_self k, m, chosen⟩, fun s g => ?_⟩
      have refused : ¬ ∃ p, sealFor s m g = .ok p := by
        rw [sealFor_ok_iff]
        rintro ⟨-, r, sealed⟩
        obtain ⟨err, failed⟩ := Material.encryptSession_of_isElgamal elgamal s.message g
        rw [failed] at sealed
        cases sealed
      have unsealed : ¬ ∃ r, keyPacketsFor s ⟨[k]⟩ e.now g = .ok r := by
        rw [keyPacketsFor_single_ok_iff, chosen]
        simpa using refused
      simp only [Engine.keyPacketWithPublicKey, parsed, bind, Except.bind]
      cases packets : keyPacketsFor s ⟨[k]⟩ e.now g with
      | error err => exact ⟨err, rfl⟩
      | ok r => exact absurd ⟨r, packets⟩ unsealed
    case h_2 => cases elgamal
  case h_2 => cases elgamal

/-- A bare ElGamal primary key packet of the encrypting kind (algorithm 20), created at
1699900000, with tiny group numbers. -/
def elgamalKey : ByteArray :=
  ⟨#[0xc6, 0x0f, 0x04, 0x65, 0x52, 0x6a, 0x60, 0x14, 0x00, 0x05, 0x17, 0x00, 0x03, 0x05, 0x00, 0x04, 0x08]⟩

set_option maxRecDepth 10000 in
/-- An ElGamal key is not expired, yet no session key can be sealed to it: encryption to it
fails for every session key. -/
theorem elgamal_key_unexpired_but_refused :
    Engine.isKeyExpired { now := 1700000000 } elgamalKey = .ok false ∧
      ∀ s g, ∃ err, Engine.keyPacketWithPublicKey { now := 1700000000 } s elgamalKey g = .error err :=
  unexpiredElgamal_sound (by decide)

end SealedMail
