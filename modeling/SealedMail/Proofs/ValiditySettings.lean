import Mathlib
import SealedMail.Key.Basic

/-! # What a key's validity settings are read from

A key's expiry, and the choice of its encryption and signing material, are read from one
signature each: the self-signature in force for the primary key (the newest certification of
a valid user id, primary ones first, else the newest direct-key signature) and the binding in
force for each subkey (its newest binding signature). Validation decides separately, by
verifying, whether a user id or a subkey is valid at all; the choice of the signature in force
verifies nothing.

This file makes that precise. The settings depend on the primary key, the revocation flag,
the self-signature in force and each subkey with its binding in force, nothing else
(`SettingsAgree.of_sameSource`). A signature added to a key that does not verify there leaves
validation as it was, and the signature in force is either the one before or the added one
(`SignatureAdded.primarySelfSignature_cases`, `SignatureAdded.subkeys_cases`). So the
settings change only when the added signature itself comes into force
(`settings_unchanged_unless_in_force`), and a forged direct-key signature carrying an expiry
does change them (`forged_direct_signature_sets_expiry`).
-/

namespace SealedMail

/-! ## The last greatest element -/

section LastMax

variable {α β : Type} (f : α → Nat)

/-- One step of `lastMaxBy`: a later element at least as great takes over. -/
def lastMaxStep (best y : α) : α := if f y ≥ f best then y else best

theorem lastMaxBy_cons (x : α) (rest : List α) :
    lastMaxBy f (x :: rest) = some (rest.foldl (lastMaxStep f) x) := rfl

/-- From two running candidates, the greater one either survives the rest of the list or the
run ends where the smaller one's run ends. -/
theorem foldl_lastMaxStep_of_le {c x : α} (le : f c ≤ f x) (rest : List α) :
    rest.foldl (lastMaxStep f) x = x ∨
      rest.foldl (lastMaxStep f) x = rest.foldl (lastMaxStep f) c := by
  induction rest generalizing c x with
  | nil => exact .inl rfl
  | cons y rest ih =>
    simp only [List.foldl_cons, lastMaxStep]
    by_cases later : f y ≥ f x
    · -- `y` takes over both runs
      have later' : f y ≥ f c := le_trans le later
      exact .inr (by rw [if_pos later, if_pos later'])
    · rw [if_neg later]
      split
      · exact ih (by omega)
      · exact ih le

/-- Putting one element anywhere into a list either makes it the chosen one or changes
nothing. -/
theorem lastMaxBy_insert (before after : List α) (x : α) :
    lastMaxBy f (before ++ x :: after) = some x ∨
      lastMaxBy f (before ++ x :: after) = lastMaxBy f (before ++ after) := by
  cases before with
  | nil =>
    cases after with
    | nil => exact .inl rfl
    | cons y rest =>
      simp only [List.nil_append, lastMaxBy_cons, List.foldl_cons, Option.some.injEq]
      unfold lastMaxStep
      split
      · exact .inr rfl
      · exact foldl_lastMaxStep_of_le f (by omega) rest
  | cons b before =>
    simp only [List.cons_append, lastMaxBy_cons, List.foldl_append, List.foldl_cons,
      Option.some.injEq]
    generalize before.foldl (lastMaxStep f) b = c
    unfold lastMaxStep
    split
    · exact foldl_lastMaxStep_of_le f (by omega) after
    · exact .inr rfl

theorem foldl_lastMaxStep_mem (x : α) (rest : List α) :
    rest.foldl (lastMaxStep f) x ∈ x :: rest := by
  induction rest generalizing x with
  | nil => exact List.mem_singleton_self x
  | cons y rest ih =>
    rw [List.foldl_cons]
    unfold lastMaxStep
    split
    · exact List.mem_cons_of_mem x (ih y)
    · exact List.cons_subset_cons x (List.subset_cons_self y rest) (ih x)

/-- The chosen element is an element of the list. -/
theorem mem_of_lastMaxBy_eq_some {l : List α} {x : α} (chosen : lastMaxBy f l = some x) :
    x ∈ l := by
  cases l with
  | nil => cases chosen
  | cons y rest =>
    rw [lastMaxBy_cons, Option.some.injEq] at chosen
    exact chosen ▸ foldl_lastMaxStep_mem f y rest

theorem lastMaxStep_map (g : β → α) (a b : β) :
    lastMaxStep f (g a) (g b) = g (lastMaxStep (f ∘ g) a b) := by
  simp only [lastMaxStep, Function.comp_apply]
  exact (apply_ite g _ b a).symm

/-- Choosing among images is choosing by the composed measure. -/
theorem lastMaxBy_map (g : β → α) (l : List β) :
    lastMaxBy f (l.map g) = (lastMaxBy (f ∘ g) l).map g := by
  cases l with
  | nil => rfl
  | cons x rest =>
    simp only [List.map_cons, lastMaxBy_cons, List.foldl_map, Option.map_some]
    congr 1
    induction rest generalizing x with
    | nil => rfl
    | cons y rest ih => simp only [List.foldl_cons, lastMaxStep_map, ih]

end LastMax

/-! ## One element put into a list -/

section Inserted

variable {α : Type} {x : α} {l l' : List α}

/-- `l'` is `l` itself, or `l` with `x` put in at some place. -/
def Inserted (x : α) (l' l : List α) : Prop :=
  l' = l ∨ ∃ before after, l' = before ++ x :: after ∧ l = before ++ after

theorem Inserted.refl (x : α) (l : List α) : Inserted x l l := .inl rfl

theorem Inserted.here (x : α) (before after : List α) :
    Inserted x (before ++ x :: after) (before ++ after) :=
  .inr ⟨before, after, rfl, rfl⟩

theorem Inserted.filter (p : α → Bool) (inserted : Inserted x l' l) :
    Inserted x (l'.filter p) (l.filter p) := by
  rcases inserted with rfl | ⟨before, after, rfl, rfl⟩
  · exact .refl x _
  · simp only [List.filter_append, List.filter_cons]
    split
    · exact .here x _ _
    · exact .refl x _

theorem Inserted.append (front back : List α) (inserted : Inserted x l' l) :
    Inserted x (front ++ l' ++ back) (front ++ l ++ back) := by
  rcases inserted with rfl | ⟨before, after, rfl, rfl⟩
  · exact .refl x _
  · have moved := Inserted.here x (front ++ before) (after ++ back)
    simpa only [List.append_assoc, List.cons_append] using moved

/-- The last greatest element of a list with `x` put in is `x`, or that of the list before. -/
theorem Inserted.lastMaxBy (f : α → Nat) (inserted : Inserted x l' l) :
    lastMaxBy f l' = some x ∨ lastMaxBy f l' = lastMaxBy f l := by
  rcases inserted with rfl | ⟨before, after, rfl, rfl⟩
  · exact .inr rfl
  · exact lastMaxBy_insert f before after x

end Inserted

/-! ## Subkeys up to the signatures not in force -/

namespace Subkey

/-- The subkey with only its binding in force left among its signatures. -/
def trim (s : Subkey) : Subkey := { s with signatures := s.binding.toList }

@[simp] theorem key_trim (s : Subkey) : s.trim.key = s.key := rfl

@[simp] theorem valid_trim (s : Subkey) : s.trim.valid = s.valid := rfl

@[simp] theorem revoked_trim (s : Subkey) : s.trim.revoked = s.revoked := rfl

@[simp] theorem material_trim (s : Subkey) : s.trim.material = s.material := rfl

/-- The binding in force is itself a binding signature, so it stays in force alone. -/
@[simp] theorem binding_trim (s : Subkey) : s.trim.binding = s.binding := by
  change lastMaxBy Signature.createdOrZero
    (s.binding.toList.filter (·.typ == .subkeyBinding)) = s.binding
  cases inForce : s.binding with
  | none => rfl
  | some b =>
    have isBinding : (b.typ == .subkeyBinding) = true :=
      (List.mem_filter.mp (mem_of_lastMaxBy_eq_some _ inForce)).2
    simp [isBinding, lastMaxBy]

@[simp] theorem expirationTime_trim (s : Subkey) : s.trim.expirationTime = s.expirationTime := by
  simp only [expirationTime, binding_trim, key_trim]

/-- Whether `encryptionKey` at `at_` may take the subkey: bound, unrevoked, able to encrypt,
allowed to by its binding and not expired. -/
def encryptsAt (at_ : Int) (s : Subkey) : Bool :=
  s.valid && !s.revoked && s.material.canEncrypt &&
    (match s.binding with | some b => allowsEncryption b | none => true) &&
    (at_ == 0 || match s.expirationTime with | some e => at_ ≤ e | none => true)

/-- Whether `signingKey` may take the subkey: bound, unrevoked, able to sign and allowed to by
its binding. -/
def signs (s : Subkey) : Bool :=
  s.valid && !s.revoked && s.material.canSign &&
    (match s.binding with | some b => b.keyFlags &&& 0x02 != 0 | none => false)

@[simp] theorem encryptsAt_trim (at_ : Int) (s : Subkey) : encryptsAt at_ s.trim = encryptsAt at_ s := by
  simp only [encryptsAt, valid_trim, revoked_trim, material_trim, binding_trim, expirationTime_trim]

@[simp] theorem signs_trim (s : Subkey) : signs s.trim = signs s := by
  simp only [signs, valid_trim, revoked_trim, material_trim, binding_trim]

end Subkey

section Trim

variable {l l' : List Subkey}

theorem find?_map_trim {p : Subkey → Bool} (hp : ∀ s, p s.trim = p s) (l : List Subkey) :
    (l.find? p).map Subkey.trim = (l.map Subkey.trim).find? p := by
  rw [List.find?_map, show p ∘ Subkey.trim = p from funext hp]

theorem filter_map_trim {p : Subkey → Bool} (hp : ∀ s, p s.trim = p s) (l : List Subkey) :
    (l.filter p).map Subkey.trim = (l.map Subkey.trim).filter p := by
  rw [List.filter_map, show p ∘ Subkey.trim = p from funext hp]

theorem lastMaxBy_map_trim {c : Subkey → Nat} (hc : ∀ s, c s.trim = c s) (l : List Subkey) :
    (lastMaxBy c l).map Subkey.trim = lastMaxBy c (l.map Subkey.trim) := by
  rw [lastMaxBy_map, show c ∘ Subkey.trim = c from funext hc]

/-- Whatever is read off an optional subkey without looking at signatures out of force is the
same for two options that agree up to them. -/
theorem bind_congr_trim {γ : Type} {o o' : Option Subkey} (same : o'.map Subkey.trim = o.map Subkey.trim)
    {g : Subkey → Option γ} (hg : ∀ s, g s.trim = g s) : o'.bind g = o.bind g := by
  have through : ∀ o : Option Subkey, o.bind g = (o.map Subkey.trim).bind g := by
    intro o
    rw [Option.bind_map, show g ∘ Subkey.trim = g from funext hg]
  rw [through o', through o, same]

@[simp] theorem map_material_trim (o : Option Subkey) :
    (o.map Subkey.trim).map Subkey.material = o.map Subkey.material := by
  cases o <;> rfl

/-- The newest subkey that passes a test is the same, up to signatures out of force, in two
lists of subkeys that agree up to them. -/
theorem choice_congr_trim (same : l'.map Subkey.trim = l.map Subkey.trim) {p : Subkey → Bool}
    (hp : ∀ s, p s.trim = p s) :
    (lastMaxBy (fun s => s.key.created) (l'.filter p)).map Subkey.trim =
      (lastMaxBy (fun s => s.key.created) (l.filter p)).map Subkey.trim := by
  rw [lastMaxBy_map_trim (fun _ => rfl), lastMaxBy_map_trim (fun _ => rfl),
    filter_map_trim hp, filter_map_trim hp, same]

end Trim

/-! ## The settings and their sources -/

namespace Key

/-- `encryptionKey` with its subkey test named: the newest subkey that may encrypt at `at_`,
else the primary key when its self-signature in force allows it. -/
theorem encryptionKey_eq (k : Key) (at_ : Int) :
    k.encryptionKey at_ =
      if k.revoked || (at_ != 0 && k.isExpired at_) then none
      else ((lastMaxBy (fun s => s.key.created) (k.subkeys.filter (Subkey.encryptsAt at_))).map
          Subkey.material).or
        (if k.primarySelfSignature.all allowsEncryption && k.primaryMaterial.canEncrypt then
          some k.primaryMaterial else none) := by
  unfold encryptionKey
  split
  · rfl
  · -- the subkey test of the definition is `Subkey.encryptsAt` unfolded
    dsimp only
    split
    · rename_i s chosen
      have chosen' : lastMaxBy (fun s => s.key.created) (k.subkeys.filter (Subkey.encryptsAt at_)) =
          some s := chosen
      rw [chosen']
      rfl
    · rename_i nothing
      have nothing' : lastMaxBy (fun s => s.key.created) (k.subkeys.filter (Subkey.encryptsAt at_)) =
          none := nothing
      rw [nothing']
      cases k.primarySelfSignature <;> rfl

/-- `signingKey` with its subkey test named. -/
theorem signingKey_eq (k : Key) :
    k.signingKey =
      if k.primarySelfSignature.all allowsSigning && k.primaryMaterial.canSign then
        some k.primaryMaterial
      else (lastMaxBy (fun s => s.key.created) (k.subkeys.filter Subkey.signs)).map Subkey.material := by
  unfold signingKey
  cases k.primarySelfSignature <;> rfl

/-- `materialExpired` as one test: at a nonzero time, the primary key has expired, the
material is not yet created, or the subkey with its key id has expired. -/
theorem materialExpired_eq (k : Key) (m : Material) (at_ : Int) :
    k.materialExpired m at_ =
      (at_ != 0 && (k.isExpired at_ || decide (m.key.created > at_) ||
        ((k.subkeys.find? (fun s => Bytes.equal s.key.keyId m.keyId)).bind
          Subkey.expirationTime).any (fun e : Nat => decide (at_ > e)))) := by
  unfold materialExpired
  by_cases zero : at_ = 0
  · simp [zero]
  · cases k.subkeys.find? (fun s => Bytes.equal s.key.keyId m.keyId) with
    | none => simp [zero]
    | some s => cases expiry : s.expirationTime <;> simp [zero, expiry]

/-- Two keys agree on everything the validity settings decide: when the primary key expires,
whether it or a piece of material has expired at a time, and which material encrypts at a time
and which signs. -/
structure SettingsAgree (k' k : Key) : Prop where
  expirationTime : k'.expirationTime = k.expirationTime
  isExpired : ∀ at_, k'.isExpired at_ = k.isExpired at_
  materialExpired : ∀ m at_, k'.materialExpired m at_ = k.materialExpired m at_
  encryptionKey : ∀ at_, k'.encryptionKey at_ = k.encryptionKey at_
  signingKey : k'.signingKey = k.signingKey

/-- Two keys read their settings from the same sources: the same primary key and secret part,
the same revocation flag and self-signature in force, and subkeys that agree up to the
signatures not in force. -/
structure SameSettingsSource (k' k : Key) : Prop where
  primary : k'.primary = k.primary
  primarySecret : k'.primarySecret = k.primarySecret
  revoked : k'.revoked = k.revoked
  selfSignature : k'.primarySelfSignature = k.primarySelfSignature
  subkeys : k'.subkeys.map Subkey.trim = k.subkeys.map Subkey.trim

namespace SameSettingsSource

variable {k' k : Key} (same : SameSettingsSource k' k)
include same

theorem primaryMaterial_eq : k'.primaryMaterial = k.primaryMaterial := by
  simp only [primaryMaterial, same.primary, same.primarySecret]

theorem expirationTime_eq : k'.expirationTime = k.expirationTime := by
  simp only [expirationTime, same.selfSignature, same.primary]

theorem isExpired_eq (at_ : Int) : k'.isExpired at_ = k.isExpired at_ := by
  simp only [isExpired, same.expirationTime_eq]

theorem materialExpired_eq (m : Material) (at_ : Int) :
    k'.materialExpired m at_ = k.materialExpired m at_ := by
  have found : (k'.subkeys.find? (fun s => Bytes.equal s.key.keyId m.keyId)).map Subkey.trim =
      (k.subkeys.find? (fun s => Bytes.equal s.key.keyId m.keyId)).map Subkey.trim := by
    rw [find?_map_trim (fun _ => rfl), find?_map_trim (fun _ => rfl), same.subkeys]
  rw [Key.materialExpired_eq, Key.materialExpired_eq, same.isExpired_eq,
    bind_congr_trim found Subkey.expirationTime_trim]

theorem encryptionKey_eq (at_ : Int) : k'.encryptionKey at_ = k.encryptionKey at_ := by
  have chosen := choice_congr_trim same.subkeys (Subkey.encryptsAt_trim at_)
  rw [Key.encryptionKey_eq, Key.encryptionKey_eq, same.revoked, same.isExpired_eq,
    same.selfSignature, same.primaryMaterial_eq, ← map_material_trim, chosen, map_material_trim]

theorem signingKey_eq : k'.signingKey = k.signingKey := by
  have chosen := choice_congr_trim same.subkeys Subkey.signs_trim
  rw [Key.signingKey_eq, Key.signingKey_eq, same.selfSignature, same.primaryMaterial_eq,
    ← map_material_trim, chosen, map_material_trim]

end SameSettingsSource

/-- Keys that read their settings from the same sources agree on all of them. -/
theorem SettingsAgree.of_sameSource {k' k : Key} (same : SameSettingsSource k' k) :
    SettingsAgree k' k where
  expirationTime := same.expirationTime_eq
  isExpired := same.isExpired_eq
  materialExpired := same.materialExpired_eq
  encryptionKey := same.encryptionKey_eq
  signingKey := same.signingKey_eq

end Key

/-! ## Validation, and the signatures it reads -/

/-- Whether one of the certifications over a user id verifies under the primary key. -/
def SignedUser.certifiedBy (primary : KeyPacket) (u : SignedUser) : Bool :=
  u.signatures.any (fun s => s.isCertification && s.verifiesCertification primary 13 u.id)

/-- A certification that does not verify leaves the verdict on a user id as it was. -/
theorem SignedUser.certifiedBy_insert {primary : KeyPacket} {u : SignedUser} {s : Signature}
    {earlier later : List Signature} (signatures : u.signatures = earlier ++ later)
    (unverified : (s.isCertification && s.verifiesCertification primary 13 u.id) = false) :
    SignedUser.certifiedBy primary { u with signatures := earlier ++ s :: later } =
      u.certifiedBy primary := by
  simp only [SignedUser.certifiedBy, signatures, List.any_append, List.any_cons, unverified,
    Bool.false_or]

namespace Subkey

/-- The subkey as validation leaves it: bound (or revoked) when one of its binding (or
revocation) signatures verifies under the primary key. -/
def checked (primary : KeyPacket) (s : Subkey) : Subkey :=
  { s with
    valid := s.signatures.any (fun g => g.typ == .subkeyBinding && g.verifiesBinding primary s.key)
    revoked := s.signatures.any (fun g => g.typ == .subkeyRevocation && g.verifiesBinding primary s.key) }

/-- Subkeys that agree on everything but the signatures out of force trim to the same. -/
theorem trim_eq_trim {a b : Subkey} (key : a.key = b.key) (secret : a.secret = b.secret)
    (valid : a.valid = b.valid) (revoked : a.revoked = b.revoked) (binding : a.binding = b.binding) :
    a.trim = b.trim := by
  unfold trim
  rw [key, secret, valid, revoked, binding]

/-- A signature that does not verify for a subkey leaves its validation, and its binding in
force unless it takes that place itself. -/
theorem checked_insert {primary : KeyPacket} {sub : Subkey} {s : Signature}
    {earlier later : List Signature} (signatures : sub.signatures = earlier ++ later)
    (unverified : s.verifiesBinding primary sub.key = false) :
    (checked primary { sub with signatures := earlier ++ s :: later }).binding = some s ∨
      (checked primary { sub with signatures := earlier ++ s :: later }).trim =
        (checked primary sub).trim := by
  have inserted := ((Inserted.here s earlier later).filter (·.typ == .subkeyBinding)).lastMaxBy
    Signature.createdOrZero
  rcases inserted with chosen | same
  · exact .inl chosen
  · right
    apply trim_eq_trim
    · rfl
    · rfl
    · simp only [checked, signatures, List.any_append, List.any_cons, unverified, Bool.and_false,
        Bool.false_or]
    · simp only [checked, signatures, List.any_append, List.any_cons, unverified, Bool.and_false,
        Bool.false_or]
    · simp only [checked, binding, signatures]
      exact same

end Subkey

namespace Key

/-- The certifications of the valid user ids, in order. -/
def certifications (k : Key) : List Signature :=
  (((k.users.zip k.validUsers).filter (·.2)).flatMap (fun (u, _) => u.signatures)).filter
    Signature.isCertification

/-- The direct-key signatures of type key. -/
def keySignatures (k : Key) : List Signature := k.directSignatures.filter (·.typ == .key)

/-- The order of certifications for the self-signature in force: primary ones first, then by
creation time. -/
def selfSignatureRank (s : Signature) : Nat :=
  (if s.isPrimary then Nat.pow 2 40 else 0) + s.createdOrZero

theorem primarySelfSignature_eq (k : Key) :
    k.primarySelfSignature =
      (lastMaxBy selfSignatureRank k.certifications).or
        (lastMaxBy Signature.createdOrZero k.keySignatures) := by
  unfold primarySelfSignature
  dsimp only
  split
  · rename_i s chosen
    have chosen' : lastMaxBy selfSignatureRank k.certifications = some s := chosen
    rw [chosen']
    rfl
  · rename_i nothing
    have nothing' : lastMaxBy selfSignatureRank k.certifications = none := nothing
    rw [nothing']
    rfl

@[simp] theorem validate_primary (k : Key) : k.validate.primary = k.primary := rfl

@[simp] theorem validate_primarySecret (k : Key) : k.validate.primarySecret = k.primarySecret := rfl

@[simp] theorem validate_users (k : Key) : k.validate.users = k.users := rfl

@[simp] theorem validate_directSignatures (k : Key) :
    k.validate.directSignatures = k.directSignatures := rfl

@[simp] theorem validate_revoked (k : Key) :
    k.validate.revoked = k.revocations.any (·.verifiesKey k.primary) := rfl

@[simp] theorem validate_validUsers (k : Key) :
    k.validate.validUsers = k.users.map (SignedUser.certifiedBy k.primary) := rfl

@[simp] theorem validate_subkeys (k : Key) :
    k.validate.subkeys = k.subkeys.map (Subkey.checked k.primary) := rfl

/-- After validation, the certifications read are those over the user ids that a verified
certification stands behind. -/
theorem certifications_validate (k : Key) :
    k.validate.certifications =
      k.users.flatMap (fun u =>
        if u.certifiedBy k.primary then u.signatures.filter Signature.isCertification else []) := by
  simp only [certifications, validate_users, validate_validUsers]
  induction k.users with
  | nil => rfl
  | cons u rest ih =>
    cases certified : u.certifiedBy k.primary <;>
      simp [certified, ih]

end Key

/-! ## Adding a signature that does not verify -/

namespace Key

/-- `k'` is the key `k` with the signature `s` put in, at any place, among the signatures of one
of its user ids, among its direct-key signatures, or among the signatures of one of its
subkeys, where `s` does not verify as a self-signature of the primary key. -/
inductive SignatureAdded (s : Signature) (k : Key) : Key → Prop
  | user {before after : List SignedUser} {u : SignedUser} {earlier later : List Signature}
      (users : k.users = before ++ u :: after) (signatures : u.signatures = earlier ++ later)
      (unverified : (s.isCertification && s.verifiesCertification k.primary 13 u.id) = false) :
      SignatureAdded s k
        { k with users := before ++ { u with signatures := earlier ++ s :: later } :: after }
  | direct {earlier later : List Signature} (signatures : k.directSignatures = earlier ++ later)
      (unverified : s.verifiesKey k.primary = false) :
      SignatureAdded s k { k with directSignatures := earlier ++ s :: later }
  | subkey {before after : List Subkey} {sub : Subkey} {earlier later : List Signature}
      (subkeys : k.subkeys = before ++ sub :: after) (signatures : sub.signatures = earlier ++ later)
      (unverified : s.verifiesBinding k.primary sub.key = false) :
      SignatureAdded s k
        { k with subkeys := before ++ { sub with signatures := earlier ++ s :: later } :: after }

/-- A signature is in force on a key when it is the self-signature that sets the primary key's
settings or the binding of one of its subkeys. -/
def InForce (k : Key) (s : Signature) : Prop :=
  k.primarySelfSignature = some s ∨ ∃ sub ∈ k.subkeys, sub.binding = some s

namespace SignatureAdded

variable {s : Signature} {k k' : Key} (added : SignatureAdded s k k')
include added

theorem primary_eq : k'.primary = k.primary := by
  cases added <;> rfl

theorem primarySecret_eq : k'.primarySecret = k.primarySecret := by
  cases added <;> rfl

theorem revocations_eq : k'.revocations = k.revocations := by
  cases added <;> rfl

/-- After validation the certifications read are those before, or those with `s` put in. -/
theorem certifications_inserted :
    Inserted s k'.validate.certifications k.validate.certifications := by
  cases added with
  | @user before after u earlier later users signatures unverified =>
    rw [certifications_validate, certifications_validate, users]
    simp only [List.flatMap_append, List.flatMap_cons,
      SignedUser.certifiedBy_insert signatures unverified, signatures]
    -- only the user id that got `s` reads differently
    have middle : Inserted s
        (if u.certifiedBy k.primary then (earlier ++ s :: later).filter Signature.isCertification else [])
        (if u.certifiedBy k.primary then (earlier ++ later).filter Signature.isCertification else []) := by
      split
      · exact (Inserted.here s earlier later).filter _
      · exact .refl s []
    simpa only [List.append_assoc] using middle.append (before.flatMap _) (after.flatMap _)
  | direct => exact .refl s _
  | subkey => exact .refl s _

/-- The direct-key signatures read are those before, or those with `s` put in. -/
theorem keySignatures_inserted : Inserted s k'.validate.keySignatures k.validate.keySignatures := by
  cases added with
  | @direct earlier later signatures unverified =>
    simp only [keySignatures, validate_directSignatures, signatures]
    exact (Inserted.here s earlier later).filter _
  | user => exact .refl s _
  | subkey => exact .refl s _

/-- The self-signature in force is the one before, or `s` itself. -/
theorem primarySelfSignature_cases :
    k'.validate.primarySelfSignature = some s ∨
      k'.validate.primarySelfSignature = k.validate.primarySelfSignature := by
  rw [primarySelfSignature_eq, primarySelfSignature_eq]
  rcases added.certifications_inserted.lastMaxBy selfSignatureRank with chosen | same
  · exact .inl (by rw [chosen]; rfl)
  · rw [same]
    cases lastMaxBy selfSignatureRank k.validate.certifications with
    | some c => exact .inr rfl
    | none => simpa only [Option.none_or] using added.keySignatures_inserted.lastMaxBy _

/-- Each subkey's binding in force is the one before, unless `s` is the binding of a subkey. -/
theorem subkeys_cases :
    (∃ sub ∈ k'.validate.subkeys, sub.binding = some s) ∨
      k'.validate.subkeys.map Subkey.trim = k.validate.subkeys.map Subkey.trim := by
  cases added with
  | @subkey before after sub earlier later subkeys signatures unverified =>
    simp only [validate_subkeys, subkeys, List.map_append, List.map_cons]
    rcases Subkey.checked_insert signatures unverified with chosen | same
    · exact .inl ⟨_, List.mem_append_right _ List.mem_cons_self, chosen⟩
    · exact .inr (by rw [same])
  | user => exact .inr rfl
  | direct => exact .inr rfl

/-- With `s` added and not in force, the settings are read from the same sources. -/
theorem sameSettingsSource (idle : ¬ k'.validate.InForce s) :
    SameSettingsSource k'.validate k.validate where
  primary := by simp only [validate_primary, added.primary_eq]
  primarySecret := by simp only [validate_primarySecret, added.primarySecret_eq]
  revoked := by simp only [validate_revoked, added.revocations_eq, added.primary_eq]
  selfSignature := by
    rcases added.primarySelfSignature_cases with chosen | same
    · exact absurd (.inl chosen) idle
    · exact same
  subkeys := by
    rcases added.subkeys_cases with ⟨sub, member, chosen⟩ | same
    · exact absurd (.inr ⟨sub, member, chosen⟩) idle
    · exact same

end SignatureAdded

/-- A signature that does not verify as a self-signature, put anywhere among a key's user-id,
direct-key or subkey signatures, changes none of the key's validity settings, at any time and
for any material, unless it is itself the signature in force after validation. -/
theorem settings_unchanged_unless_in_force {s : Signature} {k k' : Key}
    (added : SignatureAdded s k k') (idle : ¬ k'.validate.InForce s) :
    SettingsAgree k'.validate k.validate :=
  SettingsAgree.of_sameSource (added.sameSettingsSource idle)

end Key

/-! ## A forged direct-key signature -/

/-- bob's Ed25519 primary key packet, created at 1699900000. -/
def bobPrimary : KeyPacket :=
  { created := 1699900000, algorithm := .eddsa,
    params := .eddsa .ed25519 ⟨⟨#[64, 69, 154, 61, 80, 64, 36, 58, 139, 137, 23, 17, 134, 59, 17,
      197, 254, 191, 81, 166, 0, 107, 28, 207, 49, 245, 56, 236, 45, 85, 172, 174, 129]⟩⟩ }

/-- bob's primary key with nothing signed over it. -/
def bareKey : Key :=
  { primary := bobPrimary, primarySecret := none, revocations := [], directSignatures := [],
    users := [], attributes := [], subkeys := [] }

/-- A direct-key signature in bob's name, made at 1700000000, that gives the key one day of
validity. Nobody made it: its digest is MD5, which is never verified. -/
def forgedKeySignature : Signature :=
  { typ := .key, algorithm := .eddsa, hash := .md5,
    hashed := [{ data := .creationTime 1700000000 }, { data := .keyExpiration 86400 }],
    unhashed := [{ data := .issuer ⟨#[156, 43, 18, 119, 242, 83, 45, 99]⟩ }],
    prefix2 := ⟨#[0, 0]⟩, values := [⟨⟨#[1]⟩⟩, ⟨⟨#[1]⟩⟩] }

/-- bob's primary key with the forged direct-key signature. -/
def forgedKey : Key := { bareKey with directSignatures := [forgedKeySignature] }

/-- An older forgery of the same kind, made at 1699990000, giving one hour of validity. -/
def olderForgedKeySignature : Signature :=
  { forgedKeySignature with
    hashed := [{ data := .creationTime 1699990000 }, { data := .keyExpiration 3600 }] }

/-- bob's primary key with both forgeries, the older one first. -/
def twiceForgedKey : Key :=
  { bareKey with directSignatures := [olderForgedKeySignature, forgedKeySignature] }

/-- The forged signature is chosen as the self-signature in force and sets an expiry on a key
that had none, although it verifies nowhere. -/
theorem forged_direct_signature_sets_expiry :
    Key.SignatureAdded forgedKeySignature bareKey forgedKey ∧
      ¬ Key.SettingsAgree forgedKey.validate bareKey.validate := by
  refine ⟨@Key.SignatureAdded.direct forgedKeySignature bareKey [] [] rfl (by decide), ?_⟩
  intro agree
  have expiry : forgedKey.validate.expirationTime = some 1699986400 := by decide
  have unexpiring : bareKey.validate.expirationTime = none := by decide
  exact absurd (agree.expirationTime.symm.trans expiry) (by rw [unexpiring]; decide)

/-- An older forgery added before the one in force stays out of force, so it changes nothing. -/
theorem older_forgery_changes_nothing :
    Key.SignatureAdded olderForgedKeySignature forgedKey twiceForgedKey ∧
      ¬ twiceForgedKey.validate.InForce olderForgedKeySignature ∧
      Key.SettingsAgree twiceForgedKey.validate forgedKey.validate := by
  have added : Key.SignatureAdded olderForgedKeySignature forgedKey twiceForgedKey :=
    @Key.SignatureAdded.direct olderForgedKeySignature forgedKey [] [forgedKeySignature] rfl
      (by decide)
  have idle : ¬ twiceForgedKey.validate.InForce olderForgedKeySignature := by
    rintro (chosen | ⟨sub, member, -⟩)
    · have inForce : twiceForgedKey.validate.primarySelfSignature = some forgedKeySignature := rfl
      have same := congrArg Signature.createdOrZero (Option.some.inj (inForce.symm.trans chosen))
      exact absurd same (by decide)
    · simp [twiceForgedKey, bareKey] at member
  exact ⟨added, idle, Key.settings_unchanged_unless_in_force added idle⟩

end SealedMail
