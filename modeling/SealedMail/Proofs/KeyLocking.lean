import Mathlib
import SealedMail.Proofs.PacketBodies
import SealedMail.Proofs.CipherFeedback
import SealedMail.Proofs.OutputSizes
import SealedMail.Proofs.KeyPackets
import SealedMail.Proofs.ProtectedPlaintext
import SealedMail.Proofs.RingSearch
import SealedMail.Engine.Keys

/-! # Locking and unlocking keys

The secret numbers of a key packet are protected by `SecretParams.lock`: written out, followed
by their SHA-1 digest and encrypted in CFB mode under a key stretched from the passphrase by an
iterated and salted specifier. Opening them with the same passphrase gives the numbers back
whenever they read back from their written form (`SecretParams.unlock_lock`), as canonical
numbers do: as many as the algorithm has, each without leading zero bytes and of fewer than
65536 bits (`SecretParams.readValues_writeValues`).

A key is unlocked by opening each secret part and locked by protecting each; both leave the
rest of the key as it is (`Key.SameButSecrets`). So unlocking gives an unlocked key with the
same public half, which every passphrase opens to itself, and locking an unlocked private key
always succeeds, gives a locked key with the same public half, and opens again with the
passphrase to the key it locked. Changing the passphrase of a key fails exactly when the old
one does not open it; changing it for an armored ring re-locks every key, in order
(`key_lock_unlock_lifecycle`).
-/

namespace SealedMail

/-! ## Secret numbers -/

namespace SecretParams

theorem writeValues_cons (m : Mpi) (rest : List Mpi) :
    writeValues (m :: rest) = m.write ++ writeValues rest := by
  simp only [writeValues, Bytes.foldl_append_eq_concat, List.map_cons, Bytes.concat_cons,
    ByteArray.empty_append]

/-- Secret numbers that read back from their written form: as many as the algorithm has, each
written as packets hold numbers. -/
def CanonicalValues (alg : PublicKeyAlgorithm) (values : List Mpi) : Prop :=
  alg.secretCount? = some values.length ∧ ∀ m ∈ values, m.Canonical

end SecretParams

/-- Numbers written one after another are read back in order. -/
theorem Cursor.reads_mpis {values : List Mpi} (canon : ∀ m ∈ values, m.Canonical) :
    Cursor.Reads (Cursor.mpis values.length) (SecretParams.writeValues values) values := by
  induction values with
  | nil => exact Cursor.Reads.pure []
  | cons m rest ih =>
    rw [SecretParams.writeValues_cons]
    exact (Cursor.reads_mpi (canon m List.mem_cons_self)).bind
      ((ih fun m' member => canon m' (List.mem_cons_of_mem m member)).map (m :: ·))

namespace SecretParams

theorem readValues_writeValues {alg : PublicKeyAlgorithm} {values : List Mpi}
    (fit : CanonicalValues alg values) : readValues alg (writeValues values) = some values := by
  have whole := (Cursor.reads_mpis fit.2).readsLast ByteArray.empty
  rw [ByteArray.empty_append] at whole
  simp only [readValues, Cursor.run, Cursor.plainSecret, fit.1]
  rw [show (0 : Nat) = ByteArray.empty.size from rfl, whole]

end SecretParams

/-- An iterated and salted specifier with a hash the engine computes always derives a key. -/
theorem StringToKey.derive?_iterated_isSome (h : HashAlgorithm) (salt : ByteArray) (c : Nat)
    (passphrase : ByteArray) (size : Nat) :
    ((StringToKey.iterated (HashCode.ofAlgorithm h) salt c).derive? passphrase size).isSome := by
  simp [StringToKey.derive?, StringToKey.hashCode, StringToKey.isHashing]

theorem CipherCode.keySize_ofAlgorithm (a : SymmetricAlgorithm) :
    (CipherCode.ofAlgorithm a).keySize = a.keySize := by
  cases a <;> rfl

namespace SecretParams

/-- Numbers that read back from their written form, protected with a SHA-1 check, open to
themselves, for a cipher the engine runs and a specifier that derives a key from the passphrase. -/
theorem unlock_sha1Checked {alg : PublicKeyAlgorithm} {values : List Mpi}
    (readBack : readValues alg (writeValues values) = some values) {cipher : SymmetricAlgorithm}
    {s2k : StringToKey}
    {passphrase : String} {key : ByteArray}
    (derived : s2k.derive? passphrase.toUTF8 cipher.keySize = some key) (iv : ByteArray) :
    unlock alg passphrase (.encrypted 254 (CipherCode.ofAlgorithm cipher) s2k iv
      (Aes.cfbEncrypt (Aes.expand key) iv (writeValues values ++ Sha1.hash (writeValues values)))) =
      .ok values := by
  have sized : (writeValues values ++ Sha1.hash (writeValues values)).size =
      (writeValues values).size + 20 := by
    rw [ByteArray.size_append, Sha1.size_hash]
  -- the clear text splits into the written numbers and their digest
  have body : (writeValues values ++ Sha1.hash (writeValues values)).extract 0
      (writeValues values).size = writeValues values :=
    ByteArray.extract_append_eq_left rfl
  have digest : (writeValues values ++ Sha1.hash (writeValues values)).extract
      (writeValues values).size ((writeValues values).size + 20) = Sha1.hash (writeValues values) :=
    ByteArray.extract_append_eq_right rfl (by rw [Sha1.size_hash])
  simp only [unlock]
  split
  · next n other => cases cipher <;> cases other
  · simp only [CipherCode.toAlgorithm?_ofAlgorithm, CipherCode.keySize_ofAlgorithm, derived,
      Aes.cfbDecrypt_cfbEncrypt, sized]
    simp [body, digest, readBack]

/-- Protected secret numbers open again with the same passphrase, whatever the cipher, hash,
count and entropy, as long as they read back from their written form (canonical numbers do,
`readValues_writeValues`). -/
theorem unlock_lock {alg : PublicKeyAlgorithm} {values : List Mpi}
    (readBack : readValues alg (writeValues values) = some values) (passphrase : String) (cipher : SymmetricAlgorithm) (hash : HashAlgorithm) (count : UInt8)
    (g : Entropy) : (lock values passphrase cipher hash count g).1.unlock alg passphrase = .ok values := by
  rcases salted : g.bytes 8 with ⟨salt, g₁⟩
  rcases started : g₁.bytes 16 with ⟨iv, g₂⟩
  obtain ⟨key, derived⟩ := Option.isSome_iff_exists.mp
    (StringToKey.derive?_iterated_isSome hash salt count.toNat passphrase.toUTF8 cipher.keySize)
  simp only [lock, salted, started, derived, Option.getD_some]
  exact unlock_sha1Checked readBack derived iv

end SecretParams

/-! ## Lists of outcomes -/

/-- A list mapped by a step in `Except` succeeds with the results of the steps, one for each
element. -/
theorem mapM_eq_ok_iff_forall₂ {α β ε : Type} {f : α → Except ε β} {l : List α} {l' : List β} :
    l.mapM f = .ok l' ↔ List.Forall₂ (fun a b => f a = .ok b) l l' := by
  induction l generalizing l' with
  | nil => cases l' <;> simp [pure, Except.pure]
  | cons a rest ih =>
    rw [List.mapM_cons]
    cases first : f a with
    | error e => cases l' <;> simp [bind, Except.bind, first]
    | ok b =>
      cases others : rest.mapM f with
      | error e => cases l' <;> simp [bind, Except.bind, ← ih, others, first]
      | ok bs => cases l' <;> simp [bind, Except.bind, pure, Except.pure, ← ih, others, first]

/-- What a relation promises of its right-hand side holds along a list it relates. -/
theorem forall_mem_of_forall₂ {α β : Type} {R : α → β → Prop} {P : β → Prop} {l : List α} {l' : List β}
    (h : List.Forall₂ R l l') (imp : ∀ a b, R a b → P b) : ∀ b ∈ l', P b := by
  induction h with
  | nil => simp
  | cons related _ ih =>
    intro b member
    rcases List.mem_cons.mp member with rfl | later
    · exact imp _ _ related
    · exact ih b later

/-! ## Keys that differ only in their secret parts -/

theorem Material.unlocked_of_hasSecret_iff (m : Material) :
    (m.hasSecret = true → m.isUnlocked = true) ↔ ∀ s, m.secret = some s → ∃ values, s = .plain values := by
  rcases m with ⟨key, secret, primary⟩
  cases secret with
  | none => simp [Material.hasSecret]
  | some s => cases s <;> simp [Material.hasSecret, Material.isUnlocked, SecretParams.isEncrypted]

namespace Key

variable {k k' L : Key} {p : String} {config : EngineConfig}

/-- Every secret part the key holds is in the clear. -/
def SecretsOpen (k : Key) : Prop :=
  ∀ m ∈ k.materials, ∀ s, m.secret = some s → ∃ values, s = .plain values

/-- Every secret part of the key that is in the clear reads back from its written form. -/
def SecretsReadBack (k : Key) : Prop :=
  ∀ m ∈ k.materials, ∀ values, m.secret = some (.plain values) →
    SecretParams.readValues m.key.algorithm (SecretParams.writeValues values) = some values

/-- Two keys that differ at most in the secret parts of their key packets. -/
structure SameButSecrets (k k' : Key) : Prop where
  rest : k' = { k with primarySecret := k'.primarySecret, subkeys := k'.subkeys }
  subkeys : List.Forall₂ (fun s s' : Subkey => s' = { s with secret := s'.secret }) k.subkeys k'.subkeys

theorem primaryMaterial_mem (k : Key) : k.primaryMaterial ∈ k.materials := List.mem_cons_self

theorem material_mem {s : Subkey} (member : s ∈ k.subkeys) : s.material ∈ k.materials :=
  List.mem_cons_of_mem _ (List.mem_map_of_mem member)

theorem state_eq_unlocked_iff : k.state = .unlocked ↔ k.isPrivate = true ∧ k.SecretsOpen := by
  simp only [SecretsOpen, ← Material.unlocked_of_hasSecret_iff, state, isPrivate]
  cases k.primarySecret <;> simp [List.all_filter]

theorem state_eq_locked_iff : k.state = .locked ↔ k.isPrivate = true ∧ ¬ k.SecretsOpen := by
  simp only [SecretsOpen, ← Material.unlocked_of_hasSecret_iff, state, isPrivate]
  cases k.primarySecret <;> simp [List.all_filter]

/-- Subkeys that differ at most in their secret parts have the same public halves. -/
theorem map_erase_of_forall₂ {l l' : List Subkey}
    (h : List.Forall₂ (fun s s' : Subkey => s' = { s with secret := s'.secret }) l l') :
    l'.map (fun s => { s with secret := none }) = l.map (fun s => { s with secret := none }) := by
  induction h with
  | nil => rfl
  | cons pair _ ih => rw [List.map_cons, List.map_cons, ih, pair]

theorem SameButSecrets.toPublic_eq (same : k.SameButSecrets k') : k'.toPublic = k.toPublic := by
  obtain ⟨rest, subkeys⟩ := same
  unfold toPublic
  rw [map_erase_of_forall₂ subkeys, rest]

end Key

/-! ## Unlocking -/

/-- Opening the secret part of one subkey, as unlocking a key does for each of them. -/
def Subkey.unlockWith (passphrase : String) (s : Subkey) : Outcome Subkey :=
  match s.secret with
  | some sec => do
    let opened ← Key.openSecret s.key.algorithm passphrase sec
    return { s with secret := some opened }
  | none => return s

namespace Key

variable {k k' : Key} {p : String}

theorem openSecret_plain (alg : PublicKeyAlgorithm) (p : String) (values : List Mpi) :
    openSecret alg p (.plain values) = .ok (.plain values) := rfl

/-- An opened secret part is in the clear. -/
theorem openSecret_eq_ok {alg : PublicKeyAlgorithm} {s s' : SecretParams}
    (h : openSecret alg p s = .ok s') : ∃ values, s' = .plain values := by
  unfold openSecret at h
  cases opened : s.unlock alg p with
  | ok values =>
    rw [opened] at h
    exact ⟨values, (Except.ok.inj h).symm⟩
  | error failure =>
    rw [opened] at h
    cases failure <;> simp at h

/-- Unlocking, with the primary secret part at hand: open it, then each subkey in order. -/
theorem unlock_eq_bind {ps : SecretParams} (primary : k.primarySecret = some ps) (p : String) :
    k.unlock p = (do
      let ps' ← openSecret k.primary.algorithm p ps
      let subkeys ← k.subkeys.mapM (Subkey.unlockWith p)
      return { k with primarySecret := some ps', subkeys }) := by
  unfold unlock
  rw [primary]
  rfl

theorem unlock_of_public (noSecret : k.primarySecret = none) (p : String) :
    k.unlock p = .error (.invalidParameter ("key " ++ k.keyId ++ " has no secret material")) := by
  unfold unlock
  rw [noSecret]
  rfl

end Key

namespace Subkey

variable {s s' : Subkey} {p : String}

/-- Opening a subkey changes only its secret part, and leaves that in the clear. -/
theorem unlockWith_eq_ok (h : s.unlockWith p = .ok s') :
    s' = { s with secret := s'.secret } ∧ ∀ sec, s'.secret = some sec → ∃ values, sec = .plain values := by
  unfold unlockWith at h
  cases secret : s.secret with
  | none =>
    rw [secret] at h
    cases Except.ok.inj h
    exact ⟨rfl, by simp [secret]⟩
  | some sec =>
    rw [secret] at h
    obtain ⟨opened, opens, built⟩ := Outcome.bind_eq_ok h
    cases Except.ok.inj built
    obtain ⟨values, rfl⟩ := Key.openSecret_eq_ok opens
    exact ⟨rfl, by simp⟩

/-- A subkey whose secret part is in the clear, or absent, opens to itself. -/
theorem unlockWith_of_open (h : ∀ sec, s.secret = some sec → ∃ values, sec = .plain values) (p : String) :
    s.unlockWith p = .ok s := by
  unfold unlockWith
  cases secret : s.secret with
  | none => rfl
  | some sec =>
    obtain ⟨values, rfl⟩ := h _ secret
    dsimp only
    rw [Key.openSecret_plain]
    show Except.ok { s with secret := some (.plain values) } = .ok s
    rw [← secret]

end Subkey

namespace Key

variable {k k' : Key} {p : String}

/-- What unlocking does: the primary secret part is opened, and each subkey in turn. -/
theorem unlock_eq_ok (h : k.unlock p = .ok k') :
    ∃ ps ps', k.primarySecret = some ps ∧ openSecret k.primary.algorithm p ps = .ok ps' ∧
      k' = { k with primarySecret := some ps', subkeys := k'.subkeys } ∧
      List.Forall₂ (fun s s' => s.unlockWith p = .ok s') k.subkeys k'.subkeys := by
  cases primary : k.primarySecret with
  | none => simp [unlock_of_public primary] at h
  | some ps =>
    rw [unlock_eq_bind primary] at h
    obtain ⟨ps', opened, rest⟩ := Outcome.bind_eq_ok h
    obtain ⟨subkeys, mapped, built⟩ := Outcome.bind_eq_ok rest
    cases Except.ok.inj built
    exact ⟨ps, ps', rfl, opened, rfl, mapM_eq_ok_iff_forall₂.mp mapped⟩

theorem unlock_sameButSecrets (h : k.unlock p = .ok k') : k.SameButSecrets k' := by
  obtain ⟨-, ps', -, -, rest, subkeys⟩ := unlock_eq_ok h
  exact ⟨by rw [rest], subkeys.imp fun _ _ opened => (Subkey.unlockWith_eq_ok opened).1⟩

/-- Unlocking gives an unlocked key. -/
theorem unlock_state (h : k.unlock p = .ok k') : k'.state = .unlocked := by
  obtain ⟨ps, ps', -, opened, rest, subkeys⟩ := unlock_eq_ok h
  refine state_eq_unlocked_iff.mpr ⟨by rw [rest]; rfl, fun m member sec secret => ?_⟩
  rcases List.mem_cons.mp member with rfl | member
  · -- the primary part was opened
    obtain ⟨values, rfl⟩ := openSecret_eq_ok opened
    rw [rest] at secret
    cases Option.some.inj secret
    exact ⟨values, rfl⟩
  · -- each subkey was opened
    obtain ⟨s', mem, rfl⟩ := List.mem_map.mp member
    exact forall_mem_of_forall₂ subkeys (fun _ _ opened => (Subkey.unlockWith_eq_ok opened).2) s' mem
      sec secret

/-- A key whose secret parts are all in the clear opens to itself with any passphrase. -/
theorem unlock_of_unlocked (h : k.state = .unlocked) (q : String) : k.unlock q = .ok k := by
  obtain ⟨priv, opened⟩ := state_eq_unlocked_iff.mp h
  obtain ⟨ps, primary⟩ := Option.isSome_iff_exists.mp priv
  obtain ⟨values, rfl⟩ := opened _ (primaryMaterial_mem k) ps primary
  have subkeys : k.subkeys.mapM (Subkey.unlockWith q) = .ok (k.subkeys.map id) :=
    mapM_eq_ok k.subkeys fun s member => Subkey.unlockWith_of_open (opened _ (material_mem member)) q
  rw [List.map_id] at subkeys
  rw [unlock_eq_bind primary, openSecret_plain]
  simp only [bind, Except.bind, subkeys, pure, Except.pure]
  rw [← primary]

end Key

/-! ## Locking -/

namespace SecretParams

/-- Protecting secret numbers gives an encrypted secret part. -/
theorem lock_isEncrypted (values : List Mpi) (passphrase : String) (cipher : SymmetricAlgorithm)
    (hash : HashAlgorithm) (count : UInt8) (g : Entropy) :
    (lock values passphrase cipher hash count g).1.isEncrypted = true := by
  rcases salted : g.bytes 8 with ⟨salt, g₁⟩
  rcases started : g₁.bytes 16 with ⟨iv, g₂⟩
  simp only [lock, salted, started, isEncrypted]

/-- A secret part as locking leaves it: an absent part stays absent, and numbers in the clear
are protected under the passphrase with the configured cipher, hash and count and some entropy. -/
def SealedAs (p : String) (config : EngineConfig) : Option SecretParams → Option SecretParams → Prop
  | none, sealed => sealed = none
  | some (.plain values), sealed =>
    ∃ g, sealed = some (lock values p config.cipher config.hash config.s2kCount g).1
  | some (.encrypted ..), _ => False

end SecretParams

/-- Locking one subkey within the fold over a key's subkeys: its secret part, if any, is
protected and the subkey joins those done so far. -/
def Subkey.lockStep (passphrase : String) (config : EngineConfig) (acc : List Subkey × Entropy)
    (s : Subkey) : Outcome (List Subkey × Entropy) :=
  match s.secret with
  | some sec => do
    let (sec, g) ← Key.closeSecret passphrase config sec acc.2
    pure (acc.1 ++ [{ s with secret := some sec }], g)
  | none => pure (acc.1 ++ [s], acc.2)

/-- A subkey as locking leaves it: the same but for its secret part, which is sealed. -/
def Subkey.SealedFrom (p : String) (config : EngineConfig) (s s' : Subkey) : Prop :=
  s' = { s with secret := s'.secret } ∧ SecretParams.SealedAs p config s.secret s'.secret

namespace Subkey

variable {s s' : Subkey} {p : String} {config : EngineConfig}

theorem lockStep_of_open (h : ∀ sec, s.secret = some sec → ∃ values, sec = .plain values)
    (acc : List Subkey) (g : Entropy) :
    ∃ s' g', lockStep p config (acc, g) s = .ok (acc ++ [s'], g') ∧ SealedFrom p config s s' := by
  cases secret : s.secret with
  | none =>
    refine ⟨s, g, ?_, rfl, by simp [SecretParams.SealedAs, secret]⟩
    unfold lockStep
    rw [secret]
    rfl
  | some sec =>
    obtain ⟨values, rfl⟩ := h _ secret
    refine ⟨{ s with secret := some (SecretParams.lock values p config.cipher config.hash config.s2kCount g).1 },
      (SecretParams.lock values p config.cipher config.hash config.s2kCount g).2, ?_, rfl, ?_⟩
    · unfold lockStep
      rw [secret]
      rfl
    · rw [secret]
      exact ⟨g, rfl⟩

/-- Locking subkeys whose secret parts are in the clear seals each of them, in order. -/
theorem foldlM_lockStep (p : String) (config : EngineConfig) (l : List Subkey) (h : ∀ s ∈ l, ∀ sec, s.secret = some sec → ∃ values, sec = .plain values)
    (acc : List Subkey) (g : Entropy) :
    ∃ l' g', l.foldlM (lockStep p config) (acc, g) = .ok (acc ++ l', g') ∧
      List.Forall₂ (SealedFrom p config) l l' := by
  induction l generalizing acc g with
  | nil => exact ⟨[], g, by simp [pure, Except.pure], .nil⟩
  | cons s rest ih =>
    obtain ⟨s', g₁, stepped, sealed⟩ := lockStep_of_open (h s List.mem_cons_self) acc g
    obtain ⟨l', g₂, folded, others⟩ :=
      ih (fun s' member => h s' (List.mem_cons_of_mem s member)) (acc ++ [s']) g₁
    refine ⟨s' :: l', g₂, ?_, .cons sealed others⟩
    rw [List.foldlM_cons, stepped]
    simpa [bind, Except.bind] using folded

/-- A sealed subkey opens with the passphrase to the subkey it was sealed from, when its
numbers read back from their written form. -/
theorem unlockWith_of_sealedFrom (sealed : SealedFrom p config s s')
    (readBack : ∀ values, s.secret = some (.plain values) →
      SecretParams.readValues s.key.algorithm (SecretParams.writeValues values) = some values) :
    s'.unlockWith p = .ok s := by
  obtain ⟨same, part⟩ := sealed
  cases secret : s.secret with
  | none =>
    rw [secret] at part
    rw [same, part, ← secret]
    exact unlockWith_of_open (s := s) (by simp [secret]) p
  | some sec =>
    rw [secret] at part
    cases sec with
    | encrypted _ _ _ _ _ => exact part.elim
    | plain values =>
      obtain ⟨g, locked⟩ := part
      have key : s'.key = s.key := by rw [same]
      unfold unlockWith
      rw [locked]
      dsimp only
      unfold Key.openSecret
      rw [key, SecretParams.unlock_lock (readBack values secret)]
      simp only [bind, Except.bind, pure, Except.pure]
      rw [same, ← secret]

end Subkey

namespace Key

variable {k k' L : Key} {p : String} {config : EngineConfig}

/-- Locking a key whose primary secret part is in the clear: that part is protected first, then
each subkey in order with the entropy left. -/
theorem lock_eq_of_plain {values : List Mpi} (primary : k.primarySecret = some (.plain values)) (p : String)
    (config : EngineConfig) (g : Entropy) :
    k.lock p config g = (do
      let (subs, g') ← k.subkeys.foldlM (Subkey.lockStep p config)
        ([], (SecretParams.lock values p config.cipher config.hash config.s2kCount g).2)
      return ({ k with
        primarySecret := some (SecretParams.lock values p config.cipher config.hash config.s2kCount g).1,
        subkeys := subs }, g')) := by
  unfold lock
  rw [primary]
  rfl

/-- The key `L` is the key `k` with every secret part sealed under the passphrase. -/
structure Relocked (p : String) (config : EngineConfig) (k L : Key) : Prop where
  rest : L = { k with primarySecret := L.primarySecret, subkeys := L.subkeys }
  primary : SecretParams.SealedAs p config k.primarySecret L.primarySecret
  subkeys : List.Forall₂ (Subkey.SealedFrom p config) k.subkeys L.subkeys

/-- Locking an unlocked key succeeds, and seals every secret part. -/
theorem lock_of_unlocked (h : k.state = .unlocked) (p : String) (config : EngineConfig) (g : Entropy) :
    ∃ L g', k.lock p config g = .ok (L, g') ∧ k.Relocked p config L := by
  obtain ⟨priv, opened⟩ := state_eq_unlocked_iff.mp h
  obtain ⟨ps, primary⟩ := Option.isSome_iff_exists.mp priv
  obtain ⟨values, rfl⟩ := opened _ (primaryMaterial_mem k) ps primary
  obtain ⟨subs, g', folded, sealed⟩ := Subkey.foldlM_lockStep p config k.subkeys
    (fun s member => opened _ (material_mem member)) []
    (SecretParams.lock values p config.cipher config.hash config.s2kCount g).2
  refine ⟨{ k with
      primarySecret := some (SecretParams.lock values p config.cipher config.hash config.s2kCount g).1,
      subkeys := subs }, g', ?_, ⟨rfl, ?_, sealed⟩⟩
  · rw [lock_eq_of_plain primary, folded]
    rfl
  · rw [primary]
    exact ⟨g, rfl⟩

namespace Relocked

theorem sameButSecrets (r : k.Relocked p config L) : k.SameButSecrets L :=
  ⟨r.rest, r.subkeys.imp fun _ _ sealed => sealed.1⟩

theorem toPublic_eq (r : k.Relocked p config L) : L.toPublic = k.toPublic :=
  r.sameButSecrets.toPublic_eq

/-- The primary secret part of a private key is sealed from numbers in the clear. -/
theorem primary_sealed (r : k.Relocked p config L) (priv : k.isPrivate = true) :
    ∃ values g, k.primarySecret = some (.plain values) ∧
      L.primarySecret = some (SecretParams.lock values p config.cipher config.hash config.s2kCount g).1 := by
  obtain ⟨ps, primary⟩ := Option.isSome_iff_exists.mp priv
  have part := r.primary
  rw [primary] at part
  cases ps with
  | encrypted _ _ _ _ _ => exact part.elim
  | plain values =>
    obtain ⟨g, sealed⟩ := part
    exact ⟨values, g, primary, sealed⟩

/-- A private key, relocked, is locked. -/
theorem state (r : k.Relocked p config L) (priv : k.isPrivate = true) : L.state = .locked := by
  obtain ⟨values, g, -, sealed⟩ := r.primary_sealed priv
  refine state_eq_locked_iff.mpr ⟨by simp [isPrivate, sealed], fun opened => ?_⟩
  obtain ⟨values', clear⟩ := opened _ (primaryMaterial_mem L) _ sealed
  have encrypted := SecretParams.lock_isEncrypted values p config.cipher config.hash config.s2kCount g
  rw [clear] at encrypted
  exact Bool.false_ne_true encrypted

/-- A private key, relocked, opens with the passphrase to the key it was locked from, when its
numbers read back from their written form. -/
theorem unlock (r : k.Relocked p config L) (priv : k.isPrivate = true) (readBack : k.SecretsReadBack) :
    L.unlock p = .ok k := by
  obtain ⟨values, g, primary, sealed⟩ := r.primary_sealed priv
  have same := r.rest
  have primaryBack : SecretParams.readValues k.primary.algorithm (SecretParams.writeValues values) =
      some values := readBack _ (primaryMaterial_mem k) values primary
  have alg : L.primary = k.primary := by rw [same]
  have opened : openSecret L.primary.algorithm p
      (SecretParams.lock values p config.cipher config.hash config.s2kCount g).1 = .ok (.plain values) := by
    unfold openSecret
    rw [alg, SecretParams.unlock_lock primaryBack]
  -- each subkey opens to the one it was sealed from
  have subkeys : L.subkeys.mapM (Subkey.unlockWith p) = .ok k.subkeys := by
    refine mapM_eq_ok_iff_forall₂.mpr (List.Forall₂.flip ?_)
    refine ((List.forall₂_and_left (p := fun s : Subkey => ∀ values, s.secret = some (.plain values) →
      SecretParams.readValues s.key.algorithm (SecretParams.writeValues values) = some values) _ _).mpr
        ⟨fun s member => readBack _ (material_mem member), r.subkeys⟩).imp fun s s' both => ?_
    exact Subkey.unlockWith_of_sealedFrom both.2 both.1
  rw [unlock_eq_bind sealed, opened]
  simp only [bind, Except.bind, subkeys, pure, Except.pure]
  rw [same, ← primary]

end Relocked

end Key

/-! ## Changing the passphrase -/

namespace Key

variable {k L : Key} {p : String} {config : EngineConfig}

theorem Relocked.isPrivate (r : k.Relocked p config L) (priv : k.isPrivate = true) : L.isPrivate = true := by
  obtain ⟨values, g, -, sealed⟩ := r.primary_sealed priv
  simp [Key.isPrivate, sealed]

theorem secretBytes_of_private (priv : k.isPrivate = true) : k.secretBytes = .ok (k.write true) := by
  simp [secretBytes, priv]

end Key

namespace KeyMaker

variable (km : KeyMaker) {k k' L : Key} {old new : String} {g g' : Entropy}

/-- Changing the passphrase fails exactly when the old passphrase does not open the key, and
with the same error. -/
theorem updatePassphrase_eq_error_iff (k : Key) (old new : String) (g : Entropy) (e : EngineError) :
    km.updatePassphrase k old new g = .error e ↔ k.unlock old = .error e := by
  unfold updatePassphrase
  cases opened : k.unlock old with
  | error e' => simp [bind, Except.bind]
  | ok k' =>
    obtain ⟨L, g', locked, -⟩ := Key.lock_of_unlocked (Key.unlock_state opened) new km.config g
    simp [bind, Except.bind, locked]

/-- Once the old passphrase opens a key, changing it succeeds with the opened key relocked. -/
theorem updatePassphrase_of_unlock (opened : k.unlock old = .ok k') (new : String) (g : Entropy) :
    ∃ L g', km.updatePassphrase k old new g = .ok (L, g') ∧ k'.Relocked new km.config L := by
  obtain ⟨L, g', locked, relocked⟩ := Key.lock_of_unlocked (Key.unlock_state opened) new km.config g
  exact ⟨L, g', by simp [updatePassphrase, opened, bind, Except.bind, locked], relocked⟩

theorem updatePassphrase_eq_ok (h : km.updatePassphrase k old new g = .ok (L, g')) :
    ∃ k', k.unlock old = .ok k' ∧ k'.Relocked new km.config L := by
  obtain ⟨k', opened, locked⟩ := Outcome.bind_eq_ok h
  obtain ⟨L', g'', locked', relocked⟩ := Key.lock_of_unlocked (Key.unlock_state opened) new km.config g
  rw [locked', Except.ok.injEq, Prod.mk.injEq] at locked
  obtain ⟨rfl, -⟩ := locked
  exact ⟨k', opened, relocked⟩

end KeyMaker

namespace Engine

/-- Re-locking one key within the fold over a ring: the key must be private; it is opened with
the old passphrase, locked with the new one, and its packets with secrets are appended. -/
def relockStep (e : Engine) (old new : String) (acc : ByteArray × Entropy) (k : Key) :
    Outcome (ByteArray × Entropy) := do
  if !k.isPrivate then throw (.invalidParameter ("key " ++ k.keyId ++ " is not a private key"))
  let (k, g) ← e.keyMaker.updatePassphrase k old new acc.2
  return (acc.1 ++ (← k.secretBytes), g)

variable (e : Engine) {k : Key} {old new : String}

theorem updatePrivateKeyPassphrase_eq (key old new : String) (g : Entropy) :
    e.updatePrivateKeyPassphrase key old new g = (do
      let ring ← KeyRing.parse key.toUTF8
      let (secret, g) ← ring.keys.foldlM (e.relockStep old new) (ByteArray.empty, g)
      return (Armor.write .privateKey e.config.armorHeaders secret, g)) := rfl

/-- A step that succeeds re-locked a private key that the old passphrase opens. -/
theorem relockStep_eq_ok {acc : ByteArray} {g : Entropy} {r : ByteArray × Entropy}
    (h : e.relockStep old new (acc, g) k = .ok r) :
    ∃ k' L g', k.unlock old = .ok k' ∧ k'.Relocked new e.config L ∧
      e.keyMaker.updatePassphrase k old new g = .ok (L, g') ∧ r = (acc ++ L.write true, g') := by
  unfold relockStep at h
  cases priv : k.isPrivate with
  | false =>
    simp only [priv, Bool.not_false, if_true] at h
    obtain ⟨_, thrown, -⟩ := Outcome.bind_eq_ok h
    cases thrown
  | true =>
    simp only [priv, Bool.not_true] at h
    obtain ⟨⟨L, g'⟩, updated, rest⟩ := Outcome.bind_eq_ok h
    obtain ⟨k', opened, relocked⟩ := e.keyMaker.updatePassphrase_eq_ok updated
    have locked := Key.secretBytes_of_private (relocked.isPrivate (Key.unlock_state opened |>
      Key.state_eq_unlocked_iff.mp).1)
    simp only [locked, bind, Except.bind, pure, Except.pure, Except.ok.injEq] at rest
    exact ⟨k', L, g', opened, relocked, updated, rest.symm⟩

/-- A private key that the old passphrase opens is re-locked by a step. -/
theorem relockStep_of_unlock (priv : k.isPrivate = true) {k' : Key} (opened : k.unlock old = .ok k')
    (new : String) (acc : ByteArray) (g : Entropy) : ∃ r, e.relockStep old new (acc, g) k = .ok r := by
  obtain ⟨L, g', updated, relocked⟩ := e.keyMaker.updatePassphrase_of_unlock opened new g
  have locked := Key.secretBytes_of_private (relocked.isPrivate (Key.unlock_state opened |>
    Key.state_eq_unlocked_iff.mp).1)
  refine ⟨(acc ++ L.write true, g'), ?_⟩
  simp [relockStep, priv, updated, locked, bind, Except.bind, pure, Except.pure]

/-- The fold over a ring re-locks each key in order and appends their packets with secrets. -/
theorem foldlM_relockStep_eq_ok {ks : List Key} {acc out : ByteArray} {g g' : Entropy}
    (h : ks.foldlM (e.relockStep old new) (acc, g) = .ok (out, g')) :
    ∃ relocked : List Key,
      List.Forall₂ (fun k L => ∃ k', k.unlock old = .ok k' ∧ k'.Relocked new e.config L) ks relocked ∧
      out = acc ++ Bytes.concat (relocked.map (·.write true)) := by
  induction ks generalizing acc g with
  | nil =>
    simp only [List.foldlM_nil, pure, Except.pure, Except.ok.injEq, Prod.mk.injEq] at h
    exact ⟨[], .nil, by rw [h.1]; simp [ByteArray.append_empty]⟩
  | cons k rest ih =>
    rw [List.foldlM_cons] at h
    obtain ⟨⟨acc', g₁⟩, stepped, folded⟩ := Outcome.bind_eq_ok h
    obtain ⟨k', L, g₂, opened, relocked, -, pair⟩ := e.relockStep_eq_ok stepped
    rw [Prod.mk.injEq] at pair
    obtain ⟨rfl, rfl⟩ := pair
    obtain ⟨others, related, written⟩ := ih folded
    refine ⟨L :: others, .cons ⟨k', opened, relocked⟩ related, ?_⟩
    rw [written, List.map_cons, Bytes.concat_cons, ByteArray.append_assoc]

/-- The fold over a ring succeeds exactly when every key is private and opens with the old
passphrase. -/
theorem foldlM_relockStep_ok_iff (old new : String) (ks : List Key) (acc : ByteArray) (g : Entropy) :
    (∃ out g', ks.foldlM (e.relockStep old new) (acc, g) = .ok (out, g')) ↔
      ∀ k ∈ ks, k.isPrivate = true ∧ ∃ k', k.unlock old = .ok k' := by
  induction ks generalizing acc g with
  | nil => simp [pure, Except.pure]
  | cons k rest ih =>
    simp only [List.foldlM_cons, List.forall_mem_cons]
    constructor
    · rintro ⟨out, g', h⟩
      obtain ⟨⟨acc', g₁⟩, stepped, folded⟩ := Outcome.bind_eq_ok h
      obtain ⟨k', L, g₂, opened, relocked, -, -⟩ := e.relockStep_eq_ok stepped
      have priv := (Key.state_eq_unlocked_iff.mp (Key.unlock_state opened)).1
      refine ⟨⟨?_, k', opened⟩, (ih acc' g₁).mp ⟨out, g', folded⟩⟩
      -- unlocking keeps the primary secret part, so the key was private
      obtain ⟨ps, -, primary, -⟩ := Key.unlock_eq_ok opened
      simp [Key.isPrivate, primary]
    · rintro ⟨⟨priv, k', opened⟩, others⟩
      obtain ⟨⟨acc', g₁⟩, stepped⟩ := e.relockStep_of_unlock priv opened new acc g
      obtain ⟨out, g', folded⟩ := (ih acc' g₁).mpr others
      exact ⟨out, g', by rw [stepped]; exact folded⟩

variable {key : String} {g : Entropy}

/-- Re-locking an armored ring succeeds exactly when it parses and every key is private and
opens with the old passphrase. -/
theorem updatePrivateKeyPassphrase_ok_iff :
    (∃ out g', e.updatePrivateKeyPassphrase key old new g = .ok (out, g')) ↔
      ∃ ring, KeyRing.parse key.toUTF8 = .ok ring ∧
        ∀ k ∈ ring.keys, k.isPrivate = true ∧ ∃ k', k.unlock old = .ok k' := by
  rw [updatePrivateKeyPassphrase_eq]
  constructor
  · rintro ⟨out, g', h⟩
    obtain ⟨ring, parsed, rest⟩ := Outcome.bind_eq_ok h
    obtain ⟨⟨secret, g₁⟩, folded, -⟩ := Outcome.bind_eq_ok rest
    exact ⟨ring, parsed, (e.foldlM_relockStep_ok_iff old new ring.keys _ g).mp ⟨secret, g₁, folded⟩⟩
  · rintro ⟨ring, parsed, keys⟩
    obtain ⟨secret, g₁, folded⟩ := (e.foldlM_relockStep_ok_iff old new ring.keys ByteArray.empty g).mpr keys
    exact ⟨Armor.write .privateKey e.config.armorHeaders secret, g₁,
      by simp only [parsed, folded, bind, Except.bind, pure, Except.pure]⟩

/-- Re-locking an armored ring relocks every key in order, and armors their packets with
secrets. -/
theorem updatePrivateKeyPassphrase_eq_ok {out : String} {g' : Entropy}
    (h : e.updatePrivateKeyPassphrase key old new g = .ok (out, g')) :
    ∃ ring relocked, KeyRing.parse key.toUTF8 = .ok ring ∧
      List.Forall₂ (fun k L => ∃ k', k.unlock old = .ok k' ∧ k'.Relocked new e.config L) ring.keys relocked ∧
      out = Armor.write .privateKey e.config.armorHeaders (Bytes.concat (relocked.map (·.write true))) := by
  rw [updatePrivateKeyPassphrase_eq] at h
  obtain ⟨ring, parsed, rest⟩ := Outcome.bind_eq_ok h
  obtain ⟨⟨secret, g₁⟩, folded, armored⟩ := Outcome.bind_eq_ok rest
  obtain ⟨relocked, related, written⟩ := e.foldlM_relockStep_eq_ok folded
  simp only [pure, Except.pure, Except.ok.injEq, Prod.mk.injEq] at armored
  refine ⟨ring, relocked, parsed, related, ?_⟩
  rw [← armored.1, written, ByteArray.empty_append]

end Engine

/-! ## The lifecycle of a key's protection -/

namespace Key

variable {k k' L : Key} {p : String} {config : EngineConfig}

theorem unlock_isPrivate (h : k.unlock p = .ok k') : k'.isPrivate = true :=
  (state_eq_unlocked_iff.mp (unlock_state h)).1

/-- A key that the old passphrase opens, relocked under a new one: locked, with the public half
of the key it was opened from, and opened by the new passphrase to the opened key. -/
theorem Relocked.of_unlock {q : String} (opened : k.unlock p = .ok k') (r : k'.Relocked q config L) :
    L.state = .locked ∧ L.toPublic = k.toPublic ∧ (k'.SecretsReadBack → L.unlock q = .ok k') := by
  have priv := unlock_isPrivate opened
  refine ⟨r.state priv, ?_, r.unlock priv⟩
  rw [r.toPublic_eq, (unlock_sameButSecrets opened).toPublic_eq]

end Key

/-- The protection of keys over their life. Unlocking opens every secret part and keeps the
public half, and an unlocked key opens to itself with any passphrase; a key without a secret
primary part is refused. Locking an unlocked key always succeeds, gives a locked key with the
same public half, and the same passphrase opens it again to the key it was, when its numbers
read back from their written form. Changing the passphrase of a key fails exactly when the old
passphrase fails, with the same error, and otherwise relocks the opened key under the new one.
Changing it for an armored ring succeeds exactly when every key is private and opens with the
old passphrase, and gives every key so relocked, in order. -/
theorem key_lock_unlock_lifecycle :
    (∀ (k k' : Key) (p : String), k.unlock p = .ok k' →
      k'.state = .unlocked ∧ k'.toPublic = k.toPublic ∧ ∀ q, k'.unlock q = .ok k') ∧
    (∀ (k : Key) (p : String), k.primarySecret = none →
      k.unlock p = .error (.invalidParameter ("key " ++ k.keyId ++ " has no secret material"))) ∧
    (∀ (k : Key) (p : String) (config : EngineConfig) (g : Entropy), k.state = .unlocked →
      ∃ L g', k.lock p config g = .ok (L, g') ∧ L.state = .locked ∧ L.toPublic = k.toPublic ∧
        (k.SecretsReadBack → L.unlock p = .ok k)) ∧
    (∀ (km : KeyMaker) (k : Key) (p q : String) (g : Entropy),
      (∀ e, km.updatePassphrase k p q g = .error e ↔ k.unlock p = .error e) ∧
      ∀ k', k.unlock p = .ok k' → ∃ L g', km.updatePassphrase k p q g = .ok (L, g') ∧
        L.state = .locked ∧ L.toPublic = k.toPublic ∧ (k'.SecretsReadBack → L.unlock q = .ok k')) ∧
    (∀ (e : Engine) (key p q : String) (g : Entropy),
      ((∃ out g', e.updatePrivateKeyPassphrase key p q g = .ok (out, g')) ↔
        ∃ ring, KeyRing.parse key.toUTF8 = .ok ring ∧
          ∀ k ∈ ring.keys, k.isPrivate = true ∧ ∃ k', k.unlock p = .ok k') ∧
      ∀ out g', e.updatePrivateKeyPassphrase key p q g = .ok (out, g') →
        ∃ (ring : KeyRing) (relocked : List Key), KeyRing.parse key.toUTF8 = .ok ring ∧
          List.Forall₂ (fun (k L : Key) => ∃ k', k.unlock p = .ok k' ∧ L.state = .locked ∧
            L.toPublic = k.toPublic ∧ (k'.SecretsReadBack → L.unlock q = .ok k')) ring.keys relocked ∧
          out = Armor.write .privateKey e.config.armorHeaders (Bytes.concat (relocked.map (·.write true)))) := by
  refine ⟨fun k k' p opened => ?_, fun k p noSecret => Key.unlock_of_public noSecret p,
    fun k p config g unlocked => ?_, fun km k p q g => ⟨km.updatePassphrase_eq_error_iff k p q g, ?_⟩,
    fun e key p q g => ⟨e.updatePrivateKeyPassphrase_ok_iff, fun out g' h => ?_⟩⟩
  · have unlocked := Key.unlock_state opened
    exact ⟨unlocked, (Key.unlock_sameButSecrets opened).toPublic_eq, Key.unlock_of_unlocked unlocked⟩
  · obtain ⟨L, g', locked, r⟩ := Key.lock_of_unlocked unlocked p config g
    have priv := (Key.state_eq_unlocked_iff.mp unlocked).1
    exact ⟨L, g', locked, r.state priv, r.toPublic_eq, r.unlock priv⟩
  · intro k' opened
    obtain ⟨L, g', updated, r⟩ := km.updatePassphrase_of_unlock opened q g
    exact ⟨L, g', updated, r.of_unlock opened⟩
  · obtain ⟨ring, relocked, parsed, related, written⟩ := e.updatePrivateKeyPassphrase_eq_ok h
    refine ⟨ring, relocked, parsed, related.imp fun k L ⟨k', opened, r⟩ => ⟨k', opened, r.of_unlock opened⟩,
      written⟩

end SealedMail
