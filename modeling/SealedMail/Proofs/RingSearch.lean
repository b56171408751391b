import Mathlib
import SealedMail.Message.Session

/-! # Opening a session key with a key ring

`openWithRing` tries the keys of a ring in order on the public-key session packets of a message.
A packet is addressed to material of a key when it names the material's key id, or when it names
nobody and the material can receive session keys; either way the material must hold a secret of
the right shape (`candidateIds`). A key to which nothing is addressed is passed over. Otherwise
the key is used as it is when every addressed material is open, and unlocked with the passphrase
when not; the first addressed packet that the key then opens ends the search.

So the search returns the session key of the first key, in ring order, that opens one of its
packets, every earlier key having failed to unlock or to open (`openWithRing_ok_iff`). Keys to
which nothing is addressed change nothing but the wording of the final `noMatchingKey` message
(`openWithRing_of_addressed_eq`). A wrong passphrase is reported only for a key that had to be
unlocked (`openWithRing_wrongPassphrase`), and when nothing has to be unlocked the passphrase does
not matter (`openWithRing_passphrase_irrelevant`).

The search is a left fold in `Except` whose error side carries the recovered session key, so the
first part rests on a fact about such folds: they stop at the first step that fails
(`foldlM_eq_error_iff_findSome?`).
-/

namespace SealedMail

/-! ## Folds that stop at the first failure -/

section Folds

variable {α β ε : Type} {f : β → α → Except ε β}

/-- A fold whose steps fail exactly where a search finds something fails with the first thing
found. -/
theorem foldlM_eq_error_iff_findSome? {find : α → Option ε}
    (step : ∀ b a e, f b a = .error e ↔ find a = some e) (l : List α) (init : β) (e : ε) :
    l.foldlM f init = .error e ↔ l.findSome? find = some e := by
  induction l generalizing init with
  | nil => simp [List.foldlM, pure, Except.pure]
  | cons a rest ih =>
    rw [List.foldlM_cons, List.findSome?_cons]
    cases stepped : f init a with
    | error e' =>
      rw [(step init a e').mp stepped]
      simp [bind, Except.bind]
    | ok b =>
      -- a step that succeeds finds nothing, and the search goes on from its result
      have nothing : find a = none := by
        cases found : find a with
        | none => rfl
        | some e' => simp [(step init a e').mpr found] at stepped
      rw [nothing]
      exact ih b

/-- Steps that leave the state as it is, on the elements a filter drops, can be left out. -/
theorem foldlM_filter {keep : α → Bool} (skip : ∀ b a, keep a = false → f b a = .ok b) (l : List α)
    (init : β) : l.foldlM f init = (l.filter keep).foldlM f init := by
  induction l generalizing init with
  | nil => rfl
  | cons a rest ih =>
    cases kept : keep a with
    | false => simp [kept, List.foldlM_cons, skip init a kept, bind, Except.bind, ih]
    | true => simp [kept, List.foldlM_cons, bind, Except.bind, ih]

/-- What each step on a member keeps holds of the result of a fold that succeeds. -/
theorem foldlM_invariant (inv : β → Prop) {l : List α}
    (step : ∀ a ∈ l, ∀ b b', inv b → f b a = .ok b' → inv b') {init result : β} (start : inv init)
    (folded : l.foldlM f init = .ok result) : inv result := by
  induction l generalizing init with
  | nil =>
    simp only [List.foldlM, pure, Except.pure, Except.ok.injEq] at folded
    exact folded ▸ start
  | cons a rest ih =>
    rw [List.foldlM_cons] at folded
    cases stepped : f init a with
    | error e => simp [stepped, bind, Except.bind] at folded
    | ok b =>
      simp only [stepped, bind, Except.bind] at folded
      exact ih (fun a' mem => step a' (List.mem_cons_of_mem a mem))
        (step a List.mem_cons_self init b start stepped) folded

/-- Folds whose steps agree on the members agree. -/
theorem foldlM_congr {g : β → α → Except ε β} {l : List α} (same : ∀ a ∈ l, ∀ b, f b a = g b a)
    (init : β) : l.foldlM f init = l.foldlM g init := by
  induction l generalizing init with
  | nil => rfl
  | cons a rest ih =>
    rw [List.foldlM_cons, List.foldlM_cons, same a List.mem_cons_self]
    cases g init a with
    | error e => rfl
    | ok b => exact ih (fun a' mem => same a' (List.mem_cons_of_mem a mem)) b

end Folds

/-! ## One key -/

/-- The session key that material reads from a public-key packet. -/
def Material.openPacket (m : Material) (p : PublicKeySessionPacket) : Outcome SessionKey :=
  (m.decryptSession p).mapError PacketError.asMessageError >>= fun (c, key) => sessionOfPlain c key

namespace Key

variable (packets : List PublicKeySessionPacket) (passphrase : Option String) (k : Key)

/-- The packets addressed to a key, each with the id of the material that may open it. -/
def addressed : List (PublicKeySessionPacket × ByteArray) :=
  packets.flatMap (fun p => (candidateIds p k).map (fun id => (p, id)))

/-- Whether every material that a packet is addressed to is open already. -/
def addressedOpen : Bool :=
  (k.addressed packets).all (fun x => (k.findMaterial x.2).any Material.isUnlocked)

/-- The key as the search uses it: as it is when every addressed material is open, else
unlocked with the passphrase; nothing without a passphrase or when unlocking fails. -/
def usableFor : Option Key :=
  if k.addressedOpen packets then some k
  else passphrase.bind (fun pw => (k.unlock pw).toOption)

/-- The session key that an addressed packet gives with the material of the key as used. -/
def opensAddressed (u : Key) (x : PublicKeySessionPacket × ByteArray) : Option SessionKey :=
  (u.findMaterial x.2).bind (fun m => (m.openPacket x.1).toOption)

/-- The session key a key recovers: from the first packet addressed to it that the key, as the
search uses it, opens. -/
def opensSession : Option SessionKey :=
  (k.usableFor packets passphrase).bind (fun u => (k.addressed packets).findSome? (opensAddressed u))

/-- One addressed packet tried with the key as used: its session key ends the search (as the
error side), a failure is kept as the last one. -/
def openStep (u : Key) (t : OpenTrail) (x : PublicKeySessionPacket × ByteArray) :
    Except SessionKey OpenTrail :=
  match u.findMaterial x.2 with
  | none => .ok t
  | some m =>
    match m.openPacket x.1 with
    | .ok s => .error s
    | .error e => .ok { t with last := some e }

/-- Whether the passphrase was missing or refused for a key that had to be unlocked. -/
def refusesPassphrase : Prop :=
  k.addressed packets ≠ [] ∧ k.addressedOpen packets = false ∧
    (passphrase = none ∨ ∃ pw, passphrase = some pw ∧ k.unlock pw = .error .wrongPassphrase)

end Key

section Step

variable {packets : List PublicKeySessionPacket} {passphrase : Option String} {t t' : OpenTrail}
  {k : Key} {s : SessionKey}

/-- The search passes over a key to which nothing is addressed, whatever the passphrase. -/
theorem tryKey_of_unaddressed (none_addressed : k.addressed packets = []) :
    tryKey packets passphrase t k = .ok t := by
  simp only [tryKey]
  rw [show packets.flatMap (fun p => (candidateIds p k).map (fun id => (p, id))) = [] from none_addressed]
  rfl

/-- Everything one step of the search can do: pass over a key to which nothing is addressed;
give up on a key that cannot be used, with the passphrase marked as refused only if it was; or
try the addressed packets with the key as used. -/
theorem tryKey_cases (packets : List PublicKeySessionPacket) (passphrase : Option String) (t : OpenTrail)
    (k : Key) :
    (k.addressed packets = [] ∧ tryKey packets passphrase t k = .ok t) ∨
    (k.addressed packets ≠ [] ∧ k.usableFor packets passphrase = none ∧
      ∃ t', tryKey packets passphrase t k = .ok t' ∧
        (t'.wrongPassphrase = true → t.wrongPassphrase = true ∨ k.refusesPassphrase packets passphrase)) ∨
    (k.addressed packets ≠ [] ∧ ∃ u, k.usableFor packets passphrase = some u ∧
      tryKey packets passphrase t k = (k.addressed packets).foldlM (Key.openStep u) t) := by
  by_cases none_addressed : k.addressed packets = []
  · exact .inl ⟨none_addressed, tryKey_of_unaddressed none_addressed⟩
  refine .inr ?_
  simp only [tryKey]
  rw [show packets.flatMap (fun p => (candidateIds p k).map (fun id => (p, id))) = k.addressed packets
    from rfl]
  simp only [List.isEmpty_iff, none_addressed, if_false]
  -- split on whether the key can be used, as the step decides it
  split
  · next t' gave_up =>
    split at gave_up
    · cases gave_up
    · next shut =>
      have closed : k.addressedOpen packets = false := Bool.eq_false_iff.mpr shut
      cases passphrase with
      | none =>
        cases gave_up
        exact .inl ⟨none_addressed, by simp [Key.usableFor, closed], _, rfl,
          fun _ => .inr ⟨none_addressed, closed, .inl rfl⟩⟩
      | some pw =>
        cases unlocked : k.unlock pw with
        | ok u => simp [unlocked] at gave_up
        | error e =>
          have unusable : k.usableFor packets (some pw) = none := by
            simp [Key.usableFor, closed, unlocked, Except.toOption]
          simp only [unlocked] at gave_up
          refine .inl ⟨none_addressed, unusable, t', rfl, ?_⟩
          cases e
          case wrongPassphrase =>
            exact fun _ => .inr ⟨none_addressed, closed, .inr ⟨pw, rfl, unlocked⟩⟩
          all_goals
            cases gave_up
            exact fun refused => .inl refused
  · next u usable =>
    refine .inr ⟨none_addressed, u, ?_, foldlM_congr (fun x _ t' => ?_) t⟩
    · split at usable
      · next opened =>
        cases usable
        simp [Key.usableFor, Key.addressedOpen, opened]
      · next shut =>
        cases passphrase with
        | none => cases usable
        | some pw =>
          cases unlocked : k.unlock pw with
          | ok u' =>
            simp only [unlocked, Except.ok.injEq] at usable
            simp [Key.usableFor, Key.addressedOpen, shut, unlocked, usable, Except.toOption]
          | error e =>
            simp only [unlocked] at usable
            split at usable
            · next same => cases same
            all_goals cases usable
    · -- each step of the search is `openStep` with the key as used
      unfold Key.openStep
      cases u.findMaterial x.2 with
      | none => rfl
      | some m => rfl

namespace Key

variable {u : Key} {x : PublicKeySessionPacket × ByteArray}

/-- Trying an addressed packet ends the search exactly when the packet opens. -/
theorem openStep_eq_error_iff : u.openStep t x = .error s ↔ u.opensAddressed x = some s := by
  unfold openStep opensAddressed
  split <;> rename_i found <;> simp only [found, Option.bind_none, Option.bind_some]
  · simp
  · split <;> rename_i opened <;> simp [opened, Except.toOption]

/-- Trying an addressed packet keeps whether a passphrase was refused. -/
theorem openStep_wrongPassphrase (tried : u.openStep t x = .ok t') :
    t'.wrongPassphrase = t.wrongPassphrase := by
  unfold openStep at tried
  split at tried
  · rw [Except.ok.injEq] at tried
    rw [tried]
  · split at tried
    · cases tried
    · rw [Except.ok.injEq] at tried
      rw [← tried]

/-- A key whose addressed material is all open is used as it is. -/
theorem usableFor_of_open (opened : k.addressedOpen packets = true) :
    k.usableFor packets passphrase = some k := by
  simp [usableFor, opened]

end Key

/-- A step of the search ends it exactly when the key recovers a session key. -/
theorem tryKey_eq_error_iff :
    tryKey packets passphrase t k = .error s ↔ k.opensSession packets passphrase = some s := by
  rcases tryKey_cases packets passphrase t k with
    ⟨none_addressed, passed⟩ | ⟨-, unusable, t', gave_up, -⟩ | ⟨-, u, usable, tried⟩
  · rw [passed, Key.opensSession, none_addressed]
    simp
  · rw [gave_up, Key.opensSession, unusable]
    simp
  · have step : ∀ (b : OpenTrail) x e, u.openStep b x = .error e ↔ u.opensAddressed x = some e :=
      fun _ _ _ => Key.openStep_eq_error_iff
    rw [tried, Key.opensSession, usable, Option.bind_some]
    exact foldlM_eq_error_iff_findSome? step _ t s

/-- A step that does not end the search marks the passphrase as refused only for a key that had
to be unlocked and refused it. -/
theorem tryKey_wrongPassphrase (tried : tryKey packets passphrase t k = .ok t')
    (refused : t'.wrongPassphrase = true) :
    t.wrongPassphrase = true ∨ k.refusesPassphrase packets passphrase := by
  rcases tryKey_cases packets passphrase t k with
    ⟨-, passed⟩ | ⟨-, -, t'', gave_up, marked⟩ | ⟨-, u, -, folded⟩
  · rw [passed, Except.ok.injEq] at tried
    exact .inl (tried ▸ refused)
  · rw [gave_up, Except.ok.injEq] at tried
    exact marked (tried ▸ refused)
  · -- trying the packets only records failures
    rw [folded] at tried
    have kept := foldlM_invariant (fun b => b.wrongPassphrase = t.wrongPassphrase)
      (fun _ _ _ _ same step => (Key.openStep_wrongPassphrase step).trans same) rfl tried
    exact .inl (kept ▸ refused)

/-- On a key whose addressed material is all open, the step tries the packets with the key itself. -/
theorem tryKey_of_open (opened : k.addressedOpen packets = true) :
    tryKey packets passphrase t k = (k.addressed packets).foldlM (Key.openStep k) t := by
  rcases tryKey_cases packets passphrase t k with
    ⟨none_addressed, passed⟩ | ⟨-, unusable, -⟩ | ⟨-, u, usable, tried⟩
  · rw [passed, none_addressed]
    rfl
  · rw [Key.usableFor_of_open opened] at unusable
    cases unusable
  · rw [Key.usableFor_of_open opened, Option.some_inj] at usable
    rw [tried, usable]

/-- Material opens a packet only with its secret part in the clear. -/
theorem Material.isUnlocked_of_openPacket {m : Material} {p : PublicKeySessionPacket}
    (opened : m.openPacket p = .ok s) : m.isUnlocked = true := by
  unfold Material.openPacket Material.decryptSession at opened
  unfold Material.isUnlocked
  split at opened
  · next values secret => simp [secret, SecretParams.isEncrypted]
  · simp [Except.mapError, bind, Except.bind] at opened

namespace Key

/-- A key recovers a session key with a packet addressed to it, opened by open material of the
key as the search uses it. -/
theorem opensSession_eq_some (opened : k.opensSession packets passphrase = some s) :
    ∃ u x m, k.usableFor packets passphrase = some u ∧ x ∈ k.addressed packets ∧
      u.findMaterial x.2 = some m ∧ m.isUnlocked = true ∧ m.openPacket x.1 = .ok s := by
  obtain ⟨u, usable, found⟩ := Option.bind_eq_some_iff.mp opened
  obtain ⟨x, mem, fits⟩ := List.exists_of_findSome?_eq_some found
  obtain ⟨m, material, read⟩ := Option.bind_eq_some_iff.mp fits
  have read : m.openPacket x.1 = .ok s := by
    cases reading : m.openPacket x.1 <;> simp_all [Except.toOption]
  exact ⟨u, x, m, usable, mem, material, Material.isUnlocked_of_openPacket read, read⟩

/-- A key recovers nothing exactly when it cannot be used, or none of the packets addressed to it
opens with its material. -/
theorem opensSession_eq_none_iff :
    k.opensSession packets passphrase = none ↔
      k.usableFor packets passphrase = none ∨ ∃ u, k.usableFor packets passphrase = some u ∧
        ∀ x ∈ k.addressed packets, ∀ m, u.findMaterial x.2 = some m →
          ∃ e, m.openPacket x.1 = .error e := by
  unfold opensSession
  cases k.usableFor packets passphrase with
  | none => exact iff_of_true rfl (.inl rfl)
  | some u =>
    simp only [Option.bind_some, reduceCtorEq, false_or, Option.some.injEq, exists_eq_left',
      List.findSome?_eq_none_iff, opensAddressed, Option.bind_eq_none_iff]
    refine forall₂_congr fun x _ => forall₂_congr fun m _ => ?_
    cases m.openPacket x.1 <;> simp [Except.toOption]

end Key

end Step

/-! ## The whole ring -/

section Ring

variable {packets : List PublicKeySessionPacket} {passphrase : Option String} {ring : KeyRing}
  {s : SessionKey}

/-- The search ends with a session key exactly when some key of the ring recovers one; it is the
one of the first such key. -/
theorem openWithRing_ok_iff :
    openWithRing packets ring passphrase = .ok s ↔
      packets ≠ [] ∧ ring.keys.findSome? (·.opensSession packets passphrase) = some s := by
  have search := foldlM_eq_error_iff_findSome? (fun _ _ _ => tryKey_eq_error_iff) ring.keys
    ({} : OpenTrail) (f := tryKey packets passphrase)
  unfold openWithRing
  by_cases empty : packets = []
  · simp [empty]
  simp only [List.isEmpty_iff, empty, if_false, ne_eq, not_false_eq_true, true_and]
  cases folded : ring.keys.foldlM (tryKey packets passphrase) {} with
  | error s' =>
    rw [folded] at search
    simpa only [Except.ok.injEq, Except.error.injEq] using search s
  | ok t =>
    -- a search that runs through the ring ends in an error
    rw [folded] at search
    have none_found : ring.keys.findSome? (·.opensSession packets passphrase) ≠ some s :=
      fun found => by simpa using (search s).mpr found
    simp only [none_found, iff_false]
    split
    · simp
    · split <;> simp

/-- Whether packets are addressed to a key. -/
def addressedTo (packets : List PublicKeySessionPacket) (k : Key) : Bool := !(k.addressed packets).isEmpty

/-- The search runs as it would over the keys to which packets are addressed. -/
theorem foldlM_tryKey_addressed (keys : List Key) (t : OpenTrail) :
    keys.foldlM (tryKey packets passphrase) t =
      (keys.filter (addressedTo packets)).foldlM (tryKey packets passphrase) t :=
  foldlM_filter (fun _ k passed => tryKey_of_unaddressed (by simpa [addressedTo] using passed)) keys t

/-- Two rings with the same keys to which packets are addressed, in the same order, give the same
result, except that a `noMatchingKey` message counts the keys of its own ring. -/
theorem openWithRing_of_addressed_eq {ring' : KeyRing}
    (same : ring'.keys.filter (addressedTo packets) = ring.keys.filter (addressedTo packets)) :
    openWithRing packets ring' passphrase = openWithRing packets ring passphrase ∨
      ∃ m m', openWithRing packets ring' passphrase = .error (.noMatchingKey m') ∧
        openWithRing packets ring passphrase = .error (.noMatchingKey m) := by
  unfold openWithRing
  by_cases empty : packets.isEmpty
  · simp [empty]
  simp only [empty, Bool.false_eq_true, if_false]
  rw [foldlM_tryKey_addressed ring'.keys, same, ← foldlM_tryKey_addressed ring.keys]
  -- both searches end alike; only the message of a search that finds nothing names its ring
  cases ring.keys.foldlM (tryKey packets passphrase) {} with
  | error s => exact .inl rfl
  | ok t =>
    by_cases refused : t.wrongPassphrase
    · simp [refused]
    · simp only [refused, Bool.false_eq_true, if_false]
      split
      · exact .inl rfl
      · exact .inl rfl
      · exact .inr ⟨_, _, rfl, rfl⟩

/-- The search reports a wrong passphrase only when some key of the ring had to be unlocked and
the passphrase was missing or refused. -/
theorem openWithRing_wrongPassphrase
    (refused : openWithRing packets ring passphrase = .error .wrongPassphrase) :
    ∃ k ∈ ring.keys, k.refusesPassphrase packets passphrase := by
  unfold openWithRing at refused
  by_cases empty : packets.isEmpty
  · simp [empty] at refused
  simp only [empty, Bool.false_eq_true, if_false] at refused
  cases folded : ring.keys.foldlM (tryKey packets passphrase) {} with
  | error s => simp [folded] at refused
  | ok t =>
    simp only [folded] at refused
    by_cases marked : t.wrongPassphrase
    · -- the mark is set only by a key that refused the passphrase
      have blame := foldlM_invariant
        (fun b : OpenTrail => b.wrongPassphrase = true →
          ∃ k ∈ ring.keys, k.refusesPassphrase packets passphrase)
        (fun k mem _ _ earlier step now =>
          (tryKey_wrongPassphrase step now).elim earlier fun here => ⟨k, mem, here⟩)
        (fun start => absurd start Bool.false_ne_true) folded
      exact blame marked
    · simp only [marked, Bool.false_eq_true, if_false] at refused
      split at refused <;> simp at refused

/-- When every material that packets are addressed to is open, the passphrase does not matter. -/
theorem openWithRing_passphrase_irrelevant (opened : ∀ k ∈ ring.keys, k.addressedOpen packets = true)
    (passphrase' : Option String) :
    openWithRing packets ring passphrase' = openWithRing packets ring passphrase := by
  unfold openWithRing
  rw [foldlM_congr fun k mem t =>
    (tryKey_of_open (opened k mem)).trans (tryKey_of_open (opened k mem)).symm]

/-- How the search of a ring for a session key goes. It returns a session key exactly when some key
of the ring recovers one, and then it is the session key of the first such key in ring order: the
keys before it recovered nothing, since they could not be used or none of the packets addressed to
them opened. The key recovers it from a packet addressed to its material, opened by that material
in the clear. Keys to which nothing is addressed are passed over whatever the passphrase, so adding
or removing them changes the result only in the wording of a `noMatchingKey` message. A wrong
passphrase is reported only for a key that had to be unlocked and whose passphrase was missing or
refused; when every addressed material is open, the passphrase does not matter. -/
theorem openWithRing_first_key_that_opens (packets : List PublicKeySessionPacket) (ring : KeyRing)
    (passphrase : Option String) :
    (∀ s, openWithRing packets ring passphrase = .ok s ↔
      packets ≠ [] ∧ ∃ pre k post, ring.keys = pre ++ k :: post ∧
        k.opensSession packets passphrase = some s ∧
        ∀ k' ∈ pre, k'.opensSession packets passphrase = none) ∧
    (∀ (k : Key) s, k.opensSession packets passphrase = some s →
      ∃ (u : Key) (x : PublicKeySessionPacket × ByteArray) (m : Material),
        k.usableFor packets passphrase = some u ∧ x ∈ k.addressed packets ∧
        u.findMaterial x.2 = some m ∧ m.isUnlocked = true ∧ m.openPacket x.1 = .ok s) ∧
    (∀ k : Key, k.opensSession packets passphrase = none ↔
      k.usableFor packets passphrase = none ∨ ∃ u : Key, k.usableFor packets passphrase = some u ∧
        ∀ x ∈ k.addressed packets, ∀ m : Material, u.findMaterial x.2 = some m →
          ∃ e, m.openPacket x.1 = .error e) ∧
    (∀ k : Key, k.addressed packets = [] → ∀ pw t, tryKey packets pw t k = .ok t) ∧
    (∀ ring' : KeyRing, ring'.keys.filter (addressedTo packets) = ring.keys.filter (addressedTo packets) →
      openWithRing packets ring' passphrase = openWithRing packets ring passphrase ∨
        ∃ m m', openWithRing packets ring' passphrase = .error (.noMatchingKey m') ∧
          openWithRing packets ring passphrase = .error (.noMatchingKey m)) ∧
    (openWithRing packets ring passphrase = .error .wrongPassphrase →
      ∃ k ∈ ring.keys, k.refusesPassphrase packets passphrase) ∧
    ((∀ k ∈ ring.keys, k.addressedOpen packets = true) →
      ∀ passphrase', openWithRing packets ring passphrase' = openWithRing packets ring passphrase) := by
  refine ⟨fun s => ?_, fun _ _ opened => Key.opensSession_eq_some opened,
    fun _ => Key.opensSession_eq_none_iff,
    fun _ none_addressed _ _ => tryKey_of_unaddressed none_addressed,
    fun _ same => openWithRing_of_addressed_eq same, openWithRing_wrongPassphrase,
    fun opened passphrase' => openWithRing_passphrase_irrelevant opened passphrase'⟩
  rw [openWithRing_ok_iff, List.findSome?_eq_some_iff]

end Ring

end SealedMail
