import Mathlib
import SealedMail.Key.Ring
import SealedMail.Proofs.Framing

/-! # Keys written as packets and read back

A key is written as a list of packets: its primary key packet, its revocations and direct
signatures, each user id or attribute followed by its signatures, and each subkey followed by
its signatures (`Key.write_eq_packets`). The key stream reader splits such a list back into
keys in stages, so written keys come back in order (`KeyStream.keys_written`), each as its
reread form: revocations are told from direct signatures by their type, and subkeys written
without secrets come before those written with them. Every key the reader gives is
`Key.Settled` (`KeyRing.parse_settled`), and for a settled key the reread form, validated, is the
key itself or its public half (`Key.Settled.validate_reread_secret`,
`Key.Settled.validate_reread_public`).

Together, when every packet of the keys reads back, a ring's binary form parses back to the
ring: the public forms to the public halves and the secret forms of private keys to the keys
(`KeyRing.parse_publicBytes`, `KeyRing.parse_secretBytes`), as long as the bytes do not look
armored.
-/

namespace SealedMail

namespace Bytes

/-- Appending pieces one by one appends their concatenation. -/
theorem foldl_append_eq_concat {α : Type} (f : α → ByteArray) (init : ByteArray) (l : List α) :
    l.foldl (fun acc x => acc ++ f x) init = init ++ concat (l.map f) := by
  induction l generalizing init with
  | nil => simp [ByteArray.append_empty]
  | cons x rest ih => rw [List.foldl_cons, ih, List.map_cons, concat_cons, ByteArray.append_assoc]

theorem concat_flatMap {α β : Type} (f : β → ByteArray) (g : α → List β) (l : List α) :
    concat ((l.flatMap g).map f) = concat (l.map fun x => concat ((g x).map f)) := by
  induction l with
  | nil => rfl
  | cons x rest ih => rw [List.flatMap_cons, List.map_append, concat_append, ih, List.map_cons, concat_cons]

end Bytes

/-- Mapping a list by a step that succeeds on each element succeeds with the results. -/
theorem mapM_eq_ok {α β ε : Type} {f : α → Except ε β} {g : α → β} (l : List α)
    (each : ∀ a ∈ l, f a = .ok (g a)) : l.mapM f = .ok (l.map g) := by
  induction l with
  | nil => rfl
  | cons a rest ih =>
    rw [List.mapM_cons, each a List.mem_cons_self, ih fun a' member => each a' (List.mem_cons_of_mem a member)]
    rfl

/-- Each element giving at least one item, there are at least as many items as elements. -/
theorem length_le_length_flatMap {α β : Type} (l : List α) (g : α → List β) (nonempty : ∀ x, g x ≠ []) :
    l.length ≤ (l.flatMap g).length := by
  induction l with
  | nil => simp
  | cons x rest ih =>
    have some := List.length_pos_of_ne_nil (nonempty x)
    simp only [List.flatMap_cons, List.length_append, List.length_cons]
    omega

/-! ## The packets of a key -/

/-- The signature packets of signatures. -/
def signaturePackets (ss : List Signature) : List Packet := ss.map .signature

/-- A user id packet and the signatures over it. -/
def SignedUser.packets (u : SignedUser) : List Packet := .userId u.format u.id :: signaturePackets u.signatures

/-- A user attribute packet and the signatures over it. -/
def SignedAttribute.packets (a : SignedAttribute) : List Packet :=
  .userAttribute a.format a.body :: signaturePackets a.signatures

namespace Subkey

/-- The packet of a subkey: with its secret part when `secret` is set and it has one. -/
def packet (s : Subkey) (secret : Bool) : Packet :=
  match s.secret, secret with
  | some sec, true => .secretSubkey ⟨s.key, sec⟩
  | _, _ => .publicSubkey s.key

/-- A subkey packet and the signatures over it. -/
def packets (s : Subkey) (secret : Bool) : List Packet := s.packet secret :: signaturePackets s.signatures

/-- Whether a subkey is written with its secret part. -/
def writtenSecret (s : Subkey) (secret : Bool) : Bool := secret && s.secret.isSome

/-- The subkey that reading its packets back gives: the secret part only where it was written,
and nothing of what validation records. -/
def reread (s : Subkey) (secret : Bool) : Subkey :=
  ⟨s.key, if secret then s.secret else none, s.signatures, false, false⟩

end Subkey

namespace Key

/-- The packet that opens a key: with its secret part when `secret` is set and it has one. -/
def primaryPacket (k : Key) (secret : Bool) : Packet :=
  match k.primarySecret, secret with
  | some s, true => .secretKey ⟨k.primary, s⟩
  | _, _ => .publicKey k.primary

/-- The packets that follow the primary key: its revocations and direct signatures, each user
id and user attribute followed by its signatures, and each subkey followed by its signatures. -/
def partPackets (k : Key) (secret : Bool) : List Packet :=
  signaturePackets (k.revocations ++ k.directSignatures) ++
    (k.users.flatMap SignedUser.packets ++ k.attributes.flatMap SignedAttribute.packets) ++
    k.subkeys.flatMap (·.packets secret)

/-- The packets of a key in the order they are written. -/
def packets (k : Key) (secret : Bool) : List Packet := k.primaryPacket secret :: k.partPackets secret

/-- The key that reading its packets back gives, before validation: the signatures after the
primary key split into revocations and the rest, user ids and attributes only where signed, the
secret parts only where they were written, subkeys written public before those written secret,
and nothing of what validation records. -/
def reread (k : Key) (secret : Bool) : Key :=
  let sigs := k.revocations ++ k.directSignatures
  { primary := k.primary, primarySecret := if secret then k.primarySecret else none
    revocations := sigs.filter (·.typ == .keyRevocation)
    directSignatures := sigs.filter (·.typ != .keyRevocation)
    users := k.users.filter (!·.signatures.isEmpty), attributes := k.attributes.filter (!·.signatures.isEmpty)
    subkeys := (k.subkeys.filter (fun s => !s.writtenSecret secret)).map (·.reread secret) ++
      (k.subkeys.filter (·.writtenSecret secret)).map (·.reread secret) }

/-- A key is written as its packets, one after another. -/
theorem write_eq_packets (k : Key) (secret : Bool) :
    k.write secret = Bytes.concat ((k.packets secret).map Packet.write) := by
  have sigs : ∀ ss : List Signature,
      ss.foldl (fun acc s => acc ++ Packet.write (.signature s)) ByteArray.empty =
        Bytes.concat ((signaturePackets ss).map Packet.write) := by
    intro ss
    rw [Bytes.foldl_append_eq_concat, ByteArray.empty_append, signaturePackets, List.map_map]
    rfl
  unfold write
  simp only [sigs, ByteArray.append_assoc]
  rw [Bytes.foldl_append_eq_concat, Bytes.foldl_append_eq_concat, Bytes.foldl_append_eq_concat]
  simp only [packets, partPackets, signaturePackets, SignedUser.packets, SignedAttribute.packets, Subkey.packets,
    List.map_cons, List.map_append, Bytes.concat_cons, Bytes.concat_append, Bytes.concat_flatMap,
    ByteArray.empty_append, ByteArray.append_assoc]
  -- what is left is the choice of public or secret packet, for the primary key and each subkey
  congr 1
  · unfold primaryPacket
    cases k.primarySecret <;> cases secret <;> rfl
  · congr 5
    apply List.map_congr_left
    intro s _
    unfold Subkey.packet
    cases s.secret <;> cases secret <;> rfl

end Key

/-! ## Reading a key's packets back into a key -/

namespace KeyStream

/-- How far into a key an item belongs: signatures first, then user ids and user attributes,
then subkeys. Anything else has no place inside a key. -/
def stage : PacketItem → Nat
  | .ok (.signature _) => 0
  | .ok (.userId ..) | .ok (.userAttribute ..) => 1
  | .ok (.publicSubkey _) | .ok (.secretSubkey _) => 2
  | _ => 3

/-- Items whose first item, if any, belongs at stage `n` or later. -/
def StartsAt (n : Nat) (items : List PacketItem) : Prop := ∀ x ∈ items.head?, n ≤ stage x

theorem StartsAt.mono {m n : Nat} {items : List PacketItem} (starts : StartsAt n items) (le : m ≤ n) :
    StartsAt m items :=
  fun x first => Nat.le_trans le (starts x first)

/-- The signatures of a stream stop at the first item that is not one. -/
theorem signatures_of_startsAt {rest : List PacketItem} (starts : StartsAt 1 rest) : signatures rest = ([], rest) := by
  cases rest with
  | nil => rfl
  | cons x rest =>
    have late : 1 ≤ stage x := starts x rfl
    cases x with
    | error e => rfl
    | ok p => cases p <;> first | rfl | simp [stage] at late

theorem signatures_append (sigs : List Signature) (rest : List PacketItem) :
    signatures ((signaturePackets sigs).map .ok ++ rest) = (sigs ++ (signatures rest).1, (signatures rest).2) := by
  induction sigs with
  | nil => rfl
  | cons s sigs ih =>
    show signatures (.ok (.signature s) :: ((signaturePackets sigs).map .ok ++ rest)) = _
    rw [signatures, ih]
    rfl

theorem signatures_written (sigs : List Signature) {rest : List PacketItem} (starts : StartsAt 1 rest) :
    signatures ((signaturePackets sigs).map .ok ++ rest) = (sigs, rest) := by
  rw [signatures_append, signatures_of_startsAt starts, List.append_nil]

/-- The user ids and attributes of a stream stop at the first item of a later stage. -/
theorem users_of_startsAt {rest : List PacketItem} (starts : StartsAt 2 rest) (fuel : Nat) :
    users fuel rest = ([], [], rest) := by
  cases fuel with
  | zero => rfl
  | succ fuel =>
    cases rest with
    | nil => rfl
    | cons x rest =>
      have late : 2 ≤ stage x := starts x rfl
      cases x with
      | error e => rfl
      | ok p => cases p <;> first | rfl | simp [stage] at late

/-- Written attributes come first after their items start. -/
theorem startsAt_attributes (as : List SignedAttribute) {rest : List PacketItem} (starts : StartsAt 1 rest) :
    StartsAt 1 ((as.flatMap SignedAttribute.packets).map .ok ++ rest) := by
  cases as with
  | nil => simpa using starts
  | cons a as => simp [StartsAt, SignedAttribute.packets, stage]

theorem startsAt_users (us : List SignedUser) (as : List SignedAttribute) {rest : List PacketItem}
    (starts : StartsAt 1 rest) :
    StartsAt 1 ((us.flatMap SignedUser.packets).map .ok ++ ((as.flatMap SignedAttribute.packets).map .ok ++ rest)) := by
  cases us with
  | nil => simpa using startsAt_attributes as starts
  | cons u us => simp [StartsAt, SignedUser.packets, stage]

/-- Written attributes with their signatures read back as themselves. -/
theorem users_attributes_written (as : List SignedAttribute) {rest : List PacketItem} (starts : StartsAt 2 rest)
    (fuel : Nat) (enough : as.length ≤ fuel) :
    users fuel ((as.flatMap SignedAttribute.packets).map .ok ++ rest) = ([], as, rest) := by
  induction as generalizing fuel with
  | nil => simpa using users_of_startsAt starts fuel
  | cons a as ih =>
    obtain ⟨fuel, rfl⟩ : ∃ f, fuel = f + 1 := ⟨fuel - 1, by simp at enough; omega⟩
    have sigs := signatures_written a.signatures (startsAt_attributes as (starts.mono (by decide)))
    have layout : ((a :: as).flatMap SignedAttribute.packets).map .ok ++ rest =
        .ok (.userAttribute a.format a.body) ::
          ((signaturePackets a.signatures).map .ok ++ ((as.flatMap SignedAttribute.packets).map .ok ++ rest)) := by
      simp [SignedAttribute.packets]
    rw [layout, users, sigs]
    simp only [ih fuel (by simp at enough; omega)]

/-- Written user ids and attributes, with their signatures, read back as themselves. -/
theorem users_written (us : List SignedUser) (as : List SignedAttribute) {rest : List PacketItem}
    (starts : StartsAt 2 rest) (fuel : Nat) (enough : us.length + as.length ≤ fuel) :
    users fuel ((us.flatMap SignedUser.packets).map .ok ++ ((as.flatMap SignedAttribute.packets).map .ok ++ rest)) =
      (us, as, rest) := by
  induction us generalizing fuel with
  | nil => simpa using users_attributes_written as starts fuel (by simpa using enough)
  | cons u us ih =>
    obtain ⟨fuel, rfl⟩ : ∃ f, fuel = f + 1 := ⟨fuel - 1, by simp at enough; omega⟩
    have sigs := signatures_written u.signatures (startsAt_users us as (starts.mono (by decide)))
    have layout : ((u :: us).flatMap SignedUser.packets).map .ok ++
        ((as.flatMap SignedAttribute.packets).map .ok ++ rest) =
          .ok (.userId u.format u.id) :: ((signaturePackets u.signatures).map .ok ++
            ((us.flatMap SignedUser.packets).map .ok ++ ((as.flatMap SignedAttribute.packets).map .ok ++ rest))) := by
      simp [SignedUser.packets]
    rw [layout, users, sigs]
    simp only [ih fuel (by simp at enough; omega)]

/-- The subkeys of a stream stop at the first item of a later stage. -/
theorem subkeys_of_startsAt {rest : List PacketItem} (starts : StartsAt 3 rest) (secret : Bool) (fuel : Nat) :
    subkeys secret fuel rest = ([], [], rest) := by
  cases fuel with
  | zero => rfl
  | succ fuel =>
    cases rest with
    | nil => rfl
    | cons x rest =>
      have late : 3 ≤ stage x := starts x rfl
      cases x with
      | error e => rfl
      | ok p => cases p <;> first | rfl | simp [stage] at late

theorem startsAt_subkeys (ss : List Subkey) (secret : Bool) {n : Nat} (early : n ≤ 2) {rest : List PacketItem}
    (starts : StartsAt n rest) : StartsAt n ((ss.flatMap (·.packets secret)).map .ok ++ rest) := by
  cases ss with
  | nil => simpa using starts
  | cons s ss =>
    simp only [StartsAt, List.flatMap_cons, Subkey.packets, List.cons_append, List.map_cons, List.head?_cons,
      Option.mem_def, Option.some.injEq, forall_eq']
    unfold Subkey.packet
    split <;> simp [stage, early]

/-- Written subkeys with their signatures read back, those written public first, then those
written with their secret parts. -/
theorem subkeys_written (secret : Bool) (ss : List Subkey) {rest : List PacketItem} (starts : StartsAt 3 rest)
    (fuel : Nat) (enough : ss.length ≤ fuel) :
    subkeys secret fuel ((ss.flatMap (·.packets secret)).map .ok ++ rest) =
      ((ss.filter (fun s => !s.writtenSecret secret)).map (·.reread secret),
        (ss.filter (·.writtenSecret secret)).map (·.reread secret), rest) := by
  induction ss generalizing fuel with
  | nil => simpa using subkeys_of_startsAt starts secret fuel
  | cons s ss ih =>
    obtain ⟨fuel, rfl⟩ : ∃ f, fuel = f + 1 := ⟨fuel - 1, by simp at enough; omega⟩
    have sigs := signatures_written s.signatures (startsAt_subkeys ss secret (by decide) (starts.mono (by decide)))
    have next := ih fuel (by simp at enough; omega)
    have layout : ((s :: ss).flatMap (·.packets secret)).map .ok ++ rest =
        .ok (s.packet secret) ::
          ((signaturePackets s.signatures).map .ok ++ ((ss.flatMap (·.packets secret)).map .ok ++ rest)) := by
      simp [Subkey.packets]
    rw [layout]
    -- the packet is public unless the subkey has a secret part and secrets are written
    rcases s with ⟨key, _ | sec, signatures, valid, revoked⟩ <;> cases secret
    all_goals
      simp only [Subkey.packet, subkeys, sigs, next, Subkey.writtenSecret, Subkey.reread, List.filter_cons,
        Option.isSome_none, Option.isSome_some, Bool.false_and, Bool.true_and, Bool.not_false, Bool.not_true,
        if_true, if_false, List.map_cons, Bool.false_eq_true]

/-- The parts written after a primary key read back into the key: the key that starts with a
written primary key is its reread form, validated, and the stream goes on after its parts. -/
theorem keyAfter_written (k : Key) (secret : Bool) (secretKept : secret = true → k.primarySecret.isSome = true)
    {rest : List PacketItem} (starts : StartsAt 3 rest) :
    keyAfter k.primary (if secret then k.primarySecret else none) ((k.partPackets secret).map .ok ++ rest) =
      ((k.reread secret).validate, rest) := by
  have subs := subkeys_written secret k.subkeys starts
  have subsStart : StartsAt 2 ((k.subkeys.flatMap (·.packets secret)).map .ok ++ rest) :=
    startsAt_subkeys k.subkeys secret (le_refl 2) (starts.mono (by decide))
  have usersRead := users_written k.users k.attributes subsStart
  have sigs := signatures_written (k.revocations ++ k.directSignatures)
    (startsAt_users k.users k.attributes (subsStart.mono (by decide)))
  -- subkeys are read with secret parts exactly when the primary key was written with one
  have mode : (if secret then k.primarySecret else none).isSome = secret := by
    cases secret with
    | false => rfl
    | true => simpa using secretKept rfl
  simp only [Key.partPackets, List.map_append, List.append_assoc] at sigs ⊢
  have usersFit := length_le_length_flatMap k.users SignedUser.packets (fun _ => List.cons_ne_nil _ _)
  have attributesFit := length_le_length_flatMap k.attributes SignedAttribute.packets (fun _ => List.cons_ne_nil _ _)
  have subkeysFit := length_le_length_flatMap k.subkeys (·.packets secret) (fun _ => List.cons_ne_nil _ _)
  simp only [keyAfter, sigs, mode]
  rw [usersRead _ (by simp only [List.length_append, List.length_map]; omega),
    subs _ (by simp only [List.length_append, List.length_map]; omega)]
  rfl

theorem startsAt_keys (ks : List Key) (secret : Bool) : StartsAt 3 ((ks.flatMap (·.packets secret)).map .ok) := by
  cases ks with
  | nil => simp [StartsAt]
  | cons k ks =>
    simp only [StartsAt, List.flatMap_cons, Key.packets, List.cons_append, List.map_cons, List.head?_cons,
      Option.mem_def, Option.some.injEq, forall_eq']
    unfold Key.primaryPacket
    split <;> simp [stage]

/-- Keys written one after another read back, in order, each as its reread form validated. -/
theorem keys_written (ks : List Key) (secret : Bool)
    (secretKept : ∀ k ∈ ks, secret = true → k.primarySecret.isSome = true) (fuel : Nat) (enough : ks.length < fuel) :
    keys fuel ((ks.flatMap (·.packets secret)).map .ok) = .ok (ks.map fun k => (k.reread secret).validate) := by
  induction ks generalizing fuel with
  | nil =>
    obtain ⟨fuel, rfl⟩ : ∃ f, fuel = f + 1 := ⟨fuel - 1, by simp at enough; omega⟩
    rfl
  | cons k ks ih =>
    obtain ⟨fuel, rfl⟩ : ∃ f, fuel = f + 1 := ⟨fuel - 1, by simp at enough; omega⟩
    have kept := secretKept k List.mem_cons_self
    have read := keyAfter_written k secret kept (startsAt_keys ks secret)
    have next := ih (fun k' member => secretKept k' (List.mem_cons_of_mem k member)) fuel (by simp at enough; omega)
    have layout : (((k :: ks).flatMap (·.packets secret)).map .ok : List PacketItem) =
        .ok (k.primaryPacket secret) :: ((k.partPackets secret).map .ok ++ (ks.flatMap (·.packets secret)).map .ok) := by
      simp [Key.packets]
    rw [layout]
    -- a key opens with its public or its secret primary packet
    unfold Key.primaryPacket
    cases held : k.primarySecret <;> cases secret
    · simp only [Bool.false_eq_true, if_false] at read
      simp [keys, read, next, bind, Except.bind, pure, Except.pure]
    · simp [held] at kept
    · simp only [Bool.false_eq_true, if_false] at read
      simp [keys, read, next, bind, Except.bind, pure, Except.pure]
    · simp only [held, if_true] at read
      simp [keys, read, next, bind, Except.bind, pure, Except.pure]

end KeyStream

/-! ## Validation -/

namespace Key

/-- A key with what validation records cleared. -/
def cleared (k : Key) : Key :=
  { k with validUsers := [], revoked := false, issues := []
           subkeys := k.subkeys.map fun s => { s with valid := false, revoked := false } }

/-- Validation reads nothing that it records itself. -/
theorem validate_cleared (k : Key) : k.cleared.validate = k.validate := by
  simp [validate, cleared, List.map_map, Function.comp_def]

/-- Validation reads no secret part. -/
theorem validate_toPublic (k : Key) : k.toPublic.validate = k.validate.toPublic := by
  simp [validate, toPublic, List.map_map, List.flatMap_map, Function.comp_def]

/-- A key as reading keeps it: validated, its revocations apart from its other direct
signatures, every user id and attribute signed, and its public subkeys before those with secret
parts. -/
structure Settled (k : Key) : Prop where
  validated : k.validate = k
  revocationsTyped : ∀ s ∈ k.revocations, s.typ = .keyRevocation
  directTyped : ∀ s ∈ k.directSignatures, s.typ ≠ .keyRevocation
  usersSigned : ∀ u ∈ k.users, u.signatures ≠ []
  attributesSigned : ∀ a ∈ k.attributes, a.signatures ≠ []
  publicSubkeysFirst : k.subkeys.filter (·.secret.isNone) ++ k.subkeys.filter (·.secret.isSome) = k.subkeys

theorem Settled.revocations_filter {k : Key} (settled : k.Settled) :
    (k.revocations ++ k.directSignatures).filter (·.typ == .keyRevocation) = k.revocations := by
  rw [List.filter_append, List.filter_eq_self.mpr, List.filter_eq_nil_iff.mpr, List.append_nil]
  · intro s member
    simpa using settled.directTyped s member
  · intro s member
    simpa using settled.revocationsTyped s member

theorem Settled.directSignatures_filter {k : Key} (settled : k.Settled) :
    (k.revocations ++ k.directSignatures).filter (·.typ != .keyRevocation) = k.directSignatures := by
  rw [List.filter_append, List.filter_eq_nil_iff.mpr, List.filter_eq_self.mpr, List.nil_append]
  · intro s member
    simpa using settled.directTyped s member
  · intro s member
    simpa using settled.revocationsTyped s member

theorem Settled.users_filter {k : Key} (settled : k.Settled) : k.users.filter (!·.signatures.isEmpty) = k.users :=
  List.filter_eq_self.mpr fun u member => by simpa using settled.usersSigned u member

theorem Settled.attributes_filter {k : Key} (settled : k.Settled) :
    k.attributes.filter (!·.signatures.isEmpty) = k.attributes :=
  List.filter_eq_self.mpr fun a member => by simpa using settled.attributesSigned a member

/-- Read back from its public packets, a settled key is its public half with nothing validated. -/
theorem Settled.reread_public {k : Key} (settled : k.Settled) : k.reread false = k.toPublic.cleared := by
  simp [reread, toPublic, cleared, settled.revocations_filter, settled.directSignatures_filter,
    settled.users_filter, settled.attributes_filter, Subkey.writtenSecret, Subkey.reread, List.map_map,
    Function.comp_def]

/-- Read back from its packets with secret parts, a settled private key is itself with nothing
validated. -/
theorem Settled.reread_secret {k : Key} (settled : k.Settled) : k.reread true = k.cleared := by
  have order := settled.publicSubkeysFirst
  simp only [reread, cleared, settled.revocations_filter, settled.directSignatures_filter, settled.users_filter,
    settled.attributes_filter, if_true]
  congr 1
  -- written with secrets, a subkey keeps its secret part, so only the order of subkeys can change
  simp only [Subkey.writtenSecret, Bool.true_and, Option.not_isSome]
  rw [← List.map_append, order]
  rfl

/-- Validating twice records what validating once does. -/
theorem validate_validate (k : Key) : k.validate.validate = k.validate := by
  have same : k.validate.cleared = k.cleared := by
    simp [validate, cleared, List.map_map, Function.comp_def]
  rw [← validate_cleared k.validate, same, validate_cleared]

/-- Read back from its public packets and validated, a settled key is its public half. -/
theorem Settled.validate_reread_public {k : Key} (settled : k.Settled) : (k.reread false).validate = k.toPublic := by
  rw [settled.reread_public, validate_cleared, validate_toPublic, settled.validated]

/-- Read back from its packets with secret parts and validated, a settled private key is itself. -/
theorem Settled.validate_reread_secret {k : Key} (settled : k.Settled) : (k.reread true).validate = k := by
  rw [settled.reread_secret, validate_cleared, settled.validated]

end Key

/-! ## Keys that are read are settled -/

namespace KeyStream

/-- Subkeys are read public ones apart from those with secret parts. -/
theorem subkeys_secret (secret : Bool) (fuel : Nat) (items : List PacketItem) :
    (∀ s ∈ (subkeys secret fuel items).1, s.secret = none) ∧
      ∀ s ∈ (subkeys secret fuel items).2.1, s.secret.isSome := by
  fun_induction subkeys secret fuel items with
  | case1 fuel k rest sigs rest' _ pubs secs r read ih =>
    rw [read] at ih
    simpa using ih
  | case2 fuel k rest _ sigs rest' _ pubs secs r read ih =>
    rw [read] at ih
    simpa using ih
  | case3 => simp
  | case4 => simp

/-- Public subkeys followed by subkeys with secret parts stay in that order under any map that
keeps secret parts. -/
theorem publicFirst_of_partition (pubs secs : List Subkey) (f : Subkey → Subkey)
    (keeps : ∀ s, (f s).secret = s.secret) (publicOnly : ∀ s ∈ pubs, s.secret = none)
    (withSecret : ∀ s ∈ secs, s.secret.isSome) :
    ((pubs ++ secs).map f).filter (·.secret.isNone) ++ ((pubs ++ secs).map f).filter (·.secret.isSome) =
      (pubs ++ secs).map f := by
  have pubsKept : (pubs.map f).filter (·.secret.isNone) = pubs.map f :=
    List.filter_eq_self.mpr (by simp_all)
  have pubsDropped : (pubs.map f).filter (·.secret.isSome) = [] :=
    List.filter_eq_nil_iff.mpr (by simp_all)
  have secsDropped : (secs.map f).filter (·.secret.isNone) = [] := by
    apply List.filter_eq_nil_iff.mpr
    intro s member
    obtain ⟨t, inside, rfl⟩ := List.mem_map.mp member
    simpa [keeps, Option.isNone_iff_eq_none, ← Option.ne_none_iff_isSome] using withSecret t inside
  have secsKept : (secs.map f).filter (·.secret.isSome) = secs.map f :=
    List.filter_eq_self.mpr (by simp_all)
  rw [List.map_append, List.filter_append, List.filter_append, pubsKept, pubsDropped, secsDropped, secsKept]
  simp

/-- Every key read from a stream is settled. -/
theorem keyAfter_settled (primary : KeyPacket) (secret : Option SecretParams) (items : List PacketItem) :
    (keyAfter primary secret items).1.Settled := by
  obtain ⟨pubsPublic, secsSecret⟩ := subkeys_secret secret.isSome
    (users (signatures items).2.length (signatures items).2).2.2.length
    (users (signatures items).2.length (signatures items).2).2.2
  refine ⟨Key.validate_validate _, ?_, ?_, ?_, ?_, ?_⟩
  · intro s member
    simp only [keyAfter, Key.validate, List.mem_filter] at member
    simpa using member.2
  · intro s member
    simp only [keyAfter, Key.validate, List.mem_filter] at member
    simpa using member.2
  · intro u member
    simp only [keyAfter, Key.validate, List.mem_filter] at member
    simpa using member.2
  · intro a member
    simp only [keyAfter, Key.validate, List.mem_filter] at member
    simpa using member.2
  · simp only [keyAfter, Key.validate]
    exact publicFirst_of_partition _ _ _ (fun _ => rfl) pubsPublic secsSecret

/-- A settled key put before keys that are all settled. -/
theorem settled_cons {key : Key} {tail : PacketResult (List Key)} (first : key.Settled)
    (others : ∀ ks, tail = .ok ks → ∀ k ∈ ks, k.Settled) :
    ∀ ks, (tail >>= fun l => pure (key :: l)) = .ok ks → ∀ k ∈ ks, k.Settled := by
  intro ks read
  cases read' : tail with
  | error e => simp [read', bind, Except.bind] at read
  | ok tailKeys =>
    simp only [read', bind, Except.bind, pure, Except.pure, Except.ok.injEq] at read
    subst read
    intro k member
    rcases List.mem_cons.mp member with rfl | inside
    · exact first
    · exact others tailKeys read' k inside

/-- Every key a stream is grouped into is settled. -/
theorem keys_settled (fuel : Nat) (items : List PacketItem) :
    ∀ ks, keys fuel items = .ok ks → ∀ k ∈ ks, k.Settled := by
  fun_induction keys fuel items with
  | case1 => simp
  | case2 => simp
  | case3 f k rest key rest' after ih =>
    have first : key.Settled := by simpa [after] using keyAfter_settled k none rest
    exact settled_cons first ih
  | case4 f k rest key rest' after ih =>
    have first : key.Settled := by simpa [after] using keyAfter_settled k.publicPart (some k.secret) rest
    exact settled_cons first ih
  | case5 _ _ _ _ _ ih => exact ih
  | case6 => simp

end KeyStream

/-- Every key that key input reads as is settled. -/
theorem KeyRing.parse_settled {data : ByteArray} {ring : KeyRing} (parsed : KeyRing.parse data = .ok ring) :
    ∀ k ∈ ring.keys, k.Settled := by
  unfold KeyRing.parse at parsed
  cases bytes : KeyRing.keyBytes data with
  | error e => simp [bytes, bind, Except.bind] at parsed
  | ok binary =>
    cases framing : Header.checkFraming binary with
    | error e => simp [bytes, framing, bind, Except.bind, Except.mapError] at parsed
    | ok u =>
      cases read : KeyStream.read binary with
      | error e => simp [bytes, framing, read, bind, Except.bind, Except.mapError] at parsed
      | ok keys =>
        by_cases none : keys.isEmpty
        · simp [bytes, framing, read, none, bind, Except.bind, Except.mapError] at parsed
        · simp only [bytes, framing, read, none, bind, Except.bind, Except.mapError, if_false, pure, Except.pure,
            Except.ok.injEq, Bool.false_eq_true] at parsed
          subst parsed
          exact KeyStream.keys_settled _ _ keys read

/-! ## Reading written keys -/

/-- A packet that reads back as itself once written: its header frames it, and its body reader
gives it back. -/
structure Packet.Rereads (p : Packet) : Prop where
  framed : Header.Frames p.format p.tag p.body
  reads : Packet.read p.format p.tag p.body = .ok p

theorem Packet.readAll_rereads (ps : List Packet) (back : ∀ p ∈ ps, p.Rereads) :
    Packet.readAll (Bytes.concat (ps.map Packet.write)) = ps.map .ok := by
  rw [Packet.readAll_write ps (fun p member => (back p member).framed)]
  apply List.map_congr_left
  intro p member
  rw [(back p member).reads]
  rfl

/-- The packets of keys written one after another. -/
theorem Key.concat_write (ks : List Key) (secret : Bool) :
    Bytes.concat (ks.map (·.write secret)) = Bytes.concat ((ks.flatMap (·.packets secret)).map Packet.write) := by
  rw [Bytes.concat_flatMap]
  congr 1
  apply List.map_congr_left
  intro k _
  exact k.write_eq_packets secret

/-- Keys written one after another, each of whose packets reads back, read back in order as
their reread forms, validated. -/
theorem KeyStream.read_written (ks : List Key) (secret : Bool)
    (secretKept : ∀ k ∈ ks, secret = true → k.primarySecret.isSome = true)
    (back : ∀ k ∈ ks, ∀ p ∈ k.packets secret, p.Rereads) :
    KeyStream.read (Bytes.concat (ks.map (·.write secret))) =
      .ok (ks.map fun k => (k.reread secret).validate) := by
  have everyBack : ∀ p ∈ ks.flatMap (·.packets secret), p.Rereads := by
    intro p member
    obtain ⟨k, inside, onKey⟩ := List.mem_flatMap.mp member
    exact back k inside p onKey
  have kept : ((ks.flatMap (·.packets secret)).map (Except.ok : Packet → PacketItem)).filter
      (fun i => !KeyStream.dropped i) = (ks.flatMap (·.packets secret)).map .ok := by
    rw [List.filter_eq_self]
    intro i member
    obtain ⟨p, -, rfl⟩ := List.mem_map.mp member
    rfl
  rw [Key.concat_write, KeyStream.read, Packet.readAll_rereads _ everyBack, kept]
  apply KeyStream.keys_written ks secret secretKept
  have := length_le_length_flatMap ks (·.packets secret) (fun _ => List.cons_ne_nil _ _)
  simp only [List.length_map]
  omega

/-- Keys written one after another, each of whose packets reads back, pass the framing guard. -/
theorem Key.checkFraming_written (ks : List Key) (secret : Bool)
    (back : ∀ k ∈ ks, ∀ p ∈ k.packets secret, p.Rereads) :
    Header.checkFraming (Bytes.concat (ks.map (·.write secret))) = .ok () := by
  rw [Key.concat_write, Packet.concat_write]
  apply Header.checkFraming_writtenFramed
  intro f member
  obtain ⟨p, inside, rfl⟩ := List.mem_map.mp member
  obtain ⟨k, onRing, onKey⟩ := List.mem_flatMap.mp inside
  exact (back k onRing p onKey).framed

/-- Key input whose binary packets are keys written one after another, each of whose packets
reads back, reads as a ring of their reread forms, validated. -/
theorem KeyRing.parse_of_keyBytes {data : ByteArray} (ks : List Key) (secret : Bool) (nonempty : ks ≠ [])
    (secretKept : ∀ k ∈ ks, secret = true → k.primarySecret.isSome = true)
    (back : ∀ k ∈ ks, ∀ p ∈ k.packets secret, p.Rereads)
    (bytes : KeyRing.keyBytes data = .ok (Bytes.concat (ks.map (·.write secret)))) :
    KeyRing.parse data = .ok ⟨ks.map fun k => (k.reread secret).validate⟩ := by
  have some : (ks.map fun k => (k.reread secret).validate).isEmpty = false := by
    cases ks with
    | nil => exact absurd rfl nonempty
    | cons k ks => rfl
  simp [KeyRing.parse, bytes, Key.checkFraming_written ks secret back,
    KeyStream.read_written ks secret secretKept back, some, bind, Except.bind, Except.mapError, pure, Except.pure]

/-- Keys written one after another in binary, each of whose packets reads back, read back as a
ring of their reread forms, validated, as long as the bytes do not look armored. -/
theorem KeyRing.parse_written (ks : List Key) (secret : Bool) (nonempty : ks ≠ [])
    (secretKept : ∀ k ∈ ks, secret = true → k.primarySecret.isSome = true)
    (back : ∀ k ∈ ks, ∀ p ∈ k.packets secret, p.Rereads)
    (plain : Armor.isArmored (Bytes.concat (ks.map (·.write secret))) = false) :
    KeyRing.parse (Bytes.concat (ks.map (·.write secret))) = .ok ⟨ks.map fun k => (k.reread secret).validate⟩ :=
  KeyRing.parse_of_keyBytes ks secret nonempty secretKept back (by simp [KeyRing.keyBytes, plain])

/-- Settled keys written one after another as public packets that read back read back as their
public halves, in order, unless the bytes look armored. -/
theorem KeyRing.parse_publicBytes (ks : List Key) (nonempty : ks ≠ []) (settled : ∀ k ∈ ks, k.Settled)
    (back : ∀ k ∈ ks, ∀ p ∈ k.packets false, p.Rereads)
    (plain : Armor.isArmored (Bytes.concat (ks.map Key.publicBytes)) = false) :
    KeyRing.parse (Bytes.concat (ks.map Key.publicBytes)) = .ok ⟨ks.map Key.toPublic⟩ := by
  have read := KeyRing.parse_written ks false nonempty (fun _ _ never => absurd never Bool.false_ne_true) back plain
  rw [List.map_congr_left fun k member => (settled k member).validate_reread_public] at read
  exact read

/-- Settled private keys written one after another with their secret parts, as packets that read
back, read back as themselves, in order, unless the bytes look armored. -/
theorem KeyRing.parse_secretBytes (ks : List Key) (nonempty : ks ≠ []) (settled : ∀ k ∈ ks, k.Settled)
    (privateKeys : ∀ k ∈ ks, k.isPrivate) (back : ∀ k ∈ ks, ∀ p ∈ k.packets true, p.Rereads)
    (plain : Armor.isArmored (Bytes.concat (ks.map (·.write true))) = false) :
    ks.mapM Key.secretBytes = .ok (ks.map (·.write true)) ∧
      KeyRing.parse (Bytes.concat (ks.map (·.write true))) = .ok ⟨ks⟩ := by
  have written : ∀ k ∈ ks, k.secretBytes = .ok (k.write true) := by
    intro k member
    simp [Key.secretBytes, privateKeys k member]
  have read := KeyRing.parse_written ks true nonempty (fun k member _ => privateKeys k member) back plain
  rw [List.map_congr_left fun k member => (settled k member).validate_reread_secret, List.map_id'] at read
  exact ⟨mapM_eq_ok ks written, read⟩

end SealedMail
