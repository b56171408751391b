import Mathlib
import SealedMail.Proofs.ArmorBlocks
import SealedMail.Proofs.KeyPackets

/-! # Keys serialized and parsed back

A key ring is serialized four ways: as public or secret packets, each either binary or armored
in key blocks. Armored key blocks written one after another read back as their data, in order
(`Armor.readAll_written`), so the binary packets of armored text are the concatenated data of
its blocks (`KeyRing.keyBytes_armored`). Parsing then goes on as for binary input, and settled
keys whose packets read back come back in order: public forms as the keys' public halves,
secret forms as the keys themselves (`KeyRing.parse_armoredPublic`,
`KeyRing.parse_armoredPrivate`, and `KeyRing.parse_publicBytes`, `KeyRing.parse_secretBytes`
for binary forms). `KeyRing.parse_serialized` gathers the four.

Binary input is told from armored text by the header mark `-----BEGIN PGP ` in its first 1024
bytes, and packet bodies are free to hold those bytes: a key whose user id is the mark, signed,
parses back from its armored form, but its binary form is taken for armored text and refused
(`armor_mark_user_id_refused_in_binary`). A user id that no signature follows is not read at
all, so a key keeps such a user id through no form.
-/

namespace SealedMail

namespace Armor

/-- Key blocks of one kind written one after another read back as blocks of that kind holding
the data, in order. -/
theorem readAll_written {kind : BlockKind} (key : kind.isKey = true) (datas : List ByteArray) :
    readAll (String.join (datas.map (write kind []))).toUTF8 = .ok (datas.map (Block.mk kind)) := by
  have simple := BlockKind.carriesPackets_of_isKey key
  rw [toUTF8_join, List.map_map, readAll_concat _ (fun a member => by
    obtain ⟨d, -, rfl⟩ := List.mem_map.mp member
    exact opensBlock_write simple d), List.mapM_map]
  apply mapM_eq_ok
  intro d _
  rw [Function.comp_apply, Function.comp_apply, readBlock_write simple]

end Armor

namespace KeyRing

/-! ## The binary packets of armored keys -/

/-- Reading the key blocks of armored text appends their data. -/
theorem foldlM_keyBlocks {kind : BlockKind} (key : kind.isKey = true) (datas : List ByteArray) (acc : ByteArray) :
    (datas.map (Armor.Block.mk kind)).foldlM (fun acc b =>
      if b.kind.isKey then pure (acc ++ b.data)
      else throw (.keyParse ("expected a key block, found " ++ b.kind.name))) acc =
      (.ok (acc ++ Bytes.concat datas) : Outcome ByteArray) := by
  induction datas generalizing acc with
  | nil => simp [ByteArray.append_empty, pure, Except.pure]
  | cons d rest ih =>
    rw [List.map_cons, List.foldlM_cons]
    simp only [key, if_true, pure_bind]
    rw [ih, Bytes.concat_cons, ByteArray.append_assoc]

/-- Key blocks of one kind written one after another give their data, concatenated, as the
binary packets of key input. -/
theorem keyBytes_armored {kind : BlockKind} (key : kind.isKey = true) (datas : List ByteArray)
    (nonempty : datas ≠ []) :
    keyBytes (String.join (datas.map (Armor.write kind []))).toUTF8 = .ok (Bytes.concat datas) := by
  -- the text opens with the first block's header mark
  have armored : Armor.isArmored (String.join (datas.map (Armor.write kind []))).toUTF8 = true := by
    obtain ⟨d, rest, rfl⟩ := List.exists_cons_of_ne_nil nonempty
    apply Armor.isArmored_of_opens
    rw [List.map_cons, String.join_cons, toUTF8_append, ByteArray.data_append, Array.toList_append]
    exact (Armor.opensBlock_write (BlockKind.carriesPackets_of_isKey key) d).opens.trans (List.prefix_append _ _)
  have ascii : ∀ x ∈ (String.join (datas.map (Armor.write kind []))).toUTF8.data.toList, x < 128 := by
    intro x member
    rw [toUTF8_join, List.map_map] at member
    obtain ⟨b, inside, there⟩ := Bytes.mem_concat member
    obtain ⟨d, -, rfl⟩ := List.mem_map.mp inside
    exact Armor.write_ascii (BlockKind.carriesPackets_of_isKey key) d x there
  obtain ⟨s, decoded⟩ := Utf8.decode_ascii ascii
  unfold keyBytes
  simp only [armored, if_true, decoded, Armor.readAll_written key, Except.mapError, bind, Except.bind]
  rw [foldlM_keyBlocks key datas, ByteArray.empty_append]

/-! ## Armored keys parsed back -/

/-- Settled keys armored one after another as public key blocks, each of whose public packets
reads back, parse back as their public halves, in order. -/
theorem parse_armoredPublic (ks : List Key) (nonempty : ks ≠ []) (settled : ∀ k ∈ ks, k.Settled)
    (back : ∀ k ∈ ks, ∀ p ∈ k.packets false, p.Rereads) :
    parse (String.join (ks.map Key.armorPublic)).toUTF8 = .ok ⟨ks.map Key.toPublic⟩ := by
  have bytes : keyBytes (String.join (ks.map Key.armorPublic)).toUTF8 = .ok (Bytes.concat (ks.map (·.write false))) := by
    have blocks := keyBytes_armored (rfl : BlockKind.publicKey.isKey = true) (ks.map Key.publicBytes) (by simpa using nonempty)
    rw [List.map_map] at blocks
    exact blocks
  have read := parse_of_keyBytes ks false nonempty (fun _ _ never => absurd never Bool.false_ne_true) back bytes
  rw [List.map_congr_left fun k member => (settled k member).validate_reread_public] at read
  exact read

/-- Settled private keys armored one after another as private key blocks, each of whose secret
packets reads back, are all armored and parse back as themselves, in order. -/
theorem parse_armoredPrivate (ks : List Key) (nonempty : ks ≠ []) (settled : ∀ k ∈ ks, k.Settled)
    (privateKeys : ∀ k ∈ ks, k.isPrivate) (back : ∀ k ∈ ks, ∀ p ∈ k.packets true, p.Rereads) :
    ks.mapM Key.armorPrivate = .ok (ks.map fun k => Armor.write .privateKey [] (k.write true)) ∧
      parse (String.join (ks.map fun k => Armor.write .privateKey [] (k.write true))).toUTF8 = .ok ⟨ks⟩ := by
  have armoredEach : ∀ k ∈ ks, k.armorPrivate = .ok (Armor.write .privateKey [] (k.write true)) := by
    intro k member
    simp [Key.armorPrivate, Key.secretBytes, privateKeys k member, Except.map]
  have bytes : keyBytes (String.join (ks.map fun k => Armor.write .privateKey [] (k.write true))).toUTF8 =
      .ok (Bytes.concat (ks.map (·.write true))) := by
    have blocks := keyBytes_armored (rfl : BlockKind.privateKey.isKey = true) (ks.map (·.write true)) (by simpa using nonempty)
    rw [List.map_map] at blocks
    exact blocks
  have read := parse_of_keyBytes ks true nonempty (fun k member _ => privateKeys k member) back bytes
  rw [List.map_congr_left fun k member => (settled k member).validate_reread_secret, List.map_id'] at read
  exact ⟨mapM_eq_ok ks armoredEach, read⟩

/-! ## The four forms -/

/-- Settled keys, each of whose packets reads back, survive serialization. Their armored public
forms parse back as their public halves, in order, and so do their binary public forms unless
those bytes look armored. When every key is private, their secret forms are all written and
parse back as the keys themselves: always when armored, and in binary unless the bytes look
armored. -/
theorem parse_serialized (ks : List Key) (nonempty : ks ≠ []) (settled : ∀ k ∈ ks, k.Settled)
    (publicBack : ∀ k ∈ ks, ∀ p ∈ k.packets false, p.Rereads) :
    parse (String.join (ks.map Key.armorPublic)).toUTF8 = .ok ⟨ks.map Key.toPublic⟩ ∧
      (Armor.isArmored (Bytes.concat (ks.map Key.publicBytes)) = false →
        parse (Bytes.concat (ks.map Key.publicBytes)) = .ok ⟨ks.map Key.toPublic⟩) ∧
      ((∀ k ∈ ks, k.isPrivate) → (∀ k ∈ ks, ∀ p ∈ k.packets true, p.Rereads) →
        ks.mapM Key.armorPrivate = .ok (ks.map fun k => Armor.write .privateKey [] (k.write true)) ∧
        parse (String.join (ks.map fun k => Armor.write .privateKey [] (k.write true))).toUTF8 = .ok ⟨ks⟩ ∧
        (Armor.isArmored (Bytes.concat (ks.map (·.write true))) = false →
          ks.mapM Key.secretBytes = .ok (ks.map (·.write true)) ∧
          parse (Bytes.concat (ks.map (·.write true))) = .ok ⟨ks⟩)) := by
  refine ⟨parse_armoredPublic ks nonempty settled publicBack,
    parse_publicBytes ks nonempty settled publicBack, fun privateKeys secretBack => ?_⟩
  obtain ⟨armored, parsed⟩ := parse_armoredPrivate ks nonempty settled privateKeys secretBack
  exact ⟨armored, parsed, parse_secretBytes ks nonempty settled privateKeys secretBack⟩

end KeyRing

/-! ## A small private key -/

/-- A signing-kind ElGamal primary key (algorithm 16) of 1699900000 with tiny group numbers. -/
def tinyElgamal : KeyPacket :=
  { created := 1699900000, algorithm := .elgamalSign, params := .elgamal ⟨⟨#[23]⟩⟩ ⟨⟨#[5]⟩⟩ ⟨⟨#[8]⟩⟩ }

/-- The tiny ElGamal key with its secret number in the clear and no user ids, as validation
leaves it. -/
def tinyPrivateKey : Key :=
  { primary := tinyElgamal, primarySecret := some (.plain [⟨⟨#[6]⟩⟩]), revocations := [], directSignatures := [],
    users := [], attributes := [], subkeys := [], issues := ["key has no user ids"] }

theorem tinyPrivateKey_settled : tinyPrivateKey.Settled where
  validated := rfl
  revocationsTyped := fun _ member => absurd member List.not_mem_nil
  directTyped := fun _ member => absurd member List.not_mem_nil
  usersSigned := fun _ member => absurd member List.not_mem_nil
  attributesSigned := fun _ member => absurd member List.not_mem_nil
  publicSubkeysFirst := rfl

set_option maxRecDepth 20000 in
theorem tinyPrivateKey_rereads (secret : Bool) : ∀ p ∈ tinyPrivateKey.packets secret, p.Rereads := by
  intro p member
  cases secret
  all_goals
    simp [Key.packets, Key.primaryPacket, tinyPrivateKey, Key.partPackets, signaturePackets] at member
    subst member
    exact ⟨⟨by with_unfolding_all decide, fun old => by cases old⟩, by with_unfolding_all rfl⟩

set_option maxRecDepth 10000 in
/-- The tiny private key survives all four forms. -/
theorem tinyPrivateKey_serialized :
    KeyRing.parse (String.join ([tinyPrivateKey].map Key.armorPublic)).toUTF8 =
        .ok ⟨[tinyPrivateKey].map Key.toPublic⟩ ∧
      KeyRing.parse (Bytes.concat ([tinyPrivateKey].map Key.publicBytes)) = .ok ⟨[tinyPrivateKey].map Key.toPublic⟩ ∧
      KeyRing.parse (String.join ([tinyPrivateKey].map fun k => Armor.write .privateKey [] (k.write true))).toUTF8 =
        .ok ⟨[tinyPrivateKey]⟩ ∧
      KeyRing.parse (Bytes.concat ([tinyPrivateKey].map (·.write true))) = .ok ⟨[tinyPrivateKey]⟩ := by
  have settled : ∀ k ∈ [tinyPrivateKey], k.Settled := by
    simpa using tinyPrivateKey_settled
  have back : ∀ secret, ∀ k ∈ [tinyPrivateKey], ∀ p ∈ k.packets secret, p.Rereads := by
    simpa using tinyPrivateKey_rereads
  obtain ⟨armoredPublic, binaryPublic, privateForms⟩ :=
    KeyRing.parse_serialized [tinyPrivateKey] (List.cons_ne_nil _ _) settled (back false)
  obtain ⟨-, armoredPrivate, binaryPrivate⟩ := privateForms (by simp [tinyPrivateKey, Key.isPrivate]) (back true)
  exact ⟨armoredPublic, binaryPublic (by with_unfolding_all decide), armoredPrivate, (binaryPrivate (by with_unfolding_all decide)).2⟩

/-! ## A user id that looks like armor -/

/-- A positive MD5 certification of 1700000000 by the tiny key; MD5 is no digest the engine
computes, so it verifies nothing. -/
def markCertification : Signature :=
  { typ := .certPositive, algorithm := .eddsa, hash := .md5,
    hashed := [{ data := .creationTime 1700000000 }],
    unhashed := [{ data := .issuer ⟨#[0xb4, 0xbd, 0xa1, 0xc9, 0x20, 0x5a, 0xe4, 0x21]⟩ }],
    prefix2 := ⟨#[0, 0]⟩, values := [⟨⟨#[1]⟩⟩, ⟨⟨#[1]⟩⟩] }

/-- The tiny ElGamal key, public, whose only user id is the header mark, certified by a signature
that does not verify, as validation leaves it. -/
def markedKey : Key :=
  { primary := tinyElgamal, primarySecret := none, revocations := [], directSignatures := [],
    users := [⟨.new, Armor.beginMark, [markCertification]⟩], attributes := [], subkeys := [],
    validUsers := [false], issues := ["user id '-----BEGIN PGP ' has no valid self-signature"] }

theorem markedKey_settled : markedKey.Settled where
  validated := by with_unfolding_all rfl
  revocationsTyped := fun _ member => absurd member List.not_mem_nil
  directTyped := fun _ member => absurd member List.not_mem_nil
  usersSigned := fun u member => by
    rw [List.mem_singleton.mp member]
    exact List.cons_ne_nil _ _
  attributesSigned := fun _ member => absurd member List.not_mem_nil
  publicSubkeysFirst := rfl

set_option maxRecDepth 20000 in
theorem markedKey_rereads : ∀ p ∈ markedKey.packets false, p.Rereads := by
  intro p member
  simp [Key.packets, Key.primaryPacket, markedKey, Key.partPackets, signaturePackets, SignedUser.packets] at member
  rcases member with rfl | rfl | rfl
  all_goals exact ⟨⟨by with_unfolding_all decide, fun old => by cases old⟩, by with_unfolding_all rfl⟩

set_option maxRecDepth 10000 in
/-- A key whose user id is the header mark parses back from its armored public form, but its
binary public form holds the mark within its first 1024 bytes, is taken for armored text and
refused. -/
theorem armor_mark_user_id_refused_in_binary :
    KeyRing.parse (String.join ([markedKey].map Key.armorPublic)).toUTF8 = .ok ⟨[markedKey.toPublic]⟩ ∧
      Armor.isArmored markedKey.publicBytes = true ∧ ∀ ring, KeyRing.parse markedKey.publicBytes ≠ .ok ring := by
  have armored := KeyRing.parse_armoredPublic [markedKey] (List.cons_ne_nil _ _) (by simpa using markedKey_settled)
    (by simpa using markedKey_rereads)
  have refused : (KeyRing.parse markedKey.publicBytes).toBool = false := by with_unfolding_all decide
  refine ⟨armored, by with_unfolding_all decide, fun ring parsed => ?_⟩
  rw [parsed] at refused
  cases refused

end SealedMail
